/-
# Who is let in

When the clock does not go back, the program's store answers as the ledger does, which
throws nothing away.  The ledger is read off the reports, so that every gate can be told
from what was seen: which session was opened last under an id, and whether it has been
closed since or the process has started again.

Whatever the clock does, a session goes back to a request that presented the admin token,
or came while authentication was off: through sessions that opened one another.
-/

import CameraStack.Access.Gates

namespace CameraStack.Access

open CameraStack.Lib

/-! ## The two stores -/

/-- The store has what the ledger has, but for what has expired. -/
def Matches (h : ℚ) (sessions ledger : Dict ℚ) : Prop :=
  ∀ sid : String, sessions[sid]? = ledger[sid]? ∨
    sessions[sid]? = none ∧ ∃ exp, ledger[sid]? = some exp ∧ exp ≤ h

variable {h now ttl : ℚ} {sessions ledger : Dict ℚ} {sid : String}

theorem Matches.mono (hmatch : Matches h sessions ledger) (hnow : h ≤ now) :
    Matches now sessions ledger := by
  intro sid
  obtain heq | ⟨hnone, exp, hexp, hle⟩ := hmatch sid
  · exact .inl heq
  · exact .inr ⟨hnone, exp, hexp, hle.trans hnow⟩

theorem Matches.prune (hmatch : Matches h sessions ledger) (hnow : h ≤ now) :
    Matches now (pruneLocked now sessions) ledger := by
  intro sid
  rw [pruneLocked, Dict.getElem?_filter]
  obtain heq | ⟨hnone, exp, hexp, hle⟩ := hmatch sid
  · rw [heq]
    cases hexp : ledger[sid]? with
    | none => exact .inl rfl
    | some exp =>
        by_cases hlive : now < exp
        · apply Or.inl
          rw [Option.filter_some, if_pos (decide_eq_true hlive)]
        · apply Or.inr
          rw [Option.filter_some, if_neg (by simpa using hlive)]
          exact ⟨rfl, exp, rfl, Rat.not_lt.mp hlive⟩
  · rw [hnone]
    exact .inr ⟨rfl, exp, hexp, hle.trans hnow⟩

theorem Matches.insert (hmatch : Matches h sessions ledger) (sid : String) (exp : ℚ) :
    Matches h (sessions.insert sid exp) (ledger.insert sid exp) := by
  intro other
  rw [Dict.getElem?_insert, Dict.getElem?_insert]
  split
  · exact .inl rfl
  · exact hmatch other

theorem Matches.erase (hmatch : Matches h sessions ledger) (sid : String) :
    Matches h (sessions.erase sid) (ledger.erase sid) := by
  intro other
  rw [Dict.getElem?_erase, Dict.getElem?_erase]
  split
  · exact .inl rfl
  · exact hmatch other

theorem Matches.create (hmatch : Matches h sessions ledger) (hnow : h ≤ now) (sid : String) :
    Matches now (sessionStore.create sid ttl now sessions)
      (ledgerStore.create sid ttl now ledger) :=
  (hmatch.prune hnow).insert sid (now + ttl)

theorem Matches.revoke (hmatch : Matches h sessions ledger) (sid : String) :
    Matches h (sessionStore.revoke sid sessions) (ledgerStore.revoke sid ledger) := by
  show Matches h (if sid = "" then sessions else sessions.erase sid)
    (if sid = "" then ledger else ledger.erase sid)
  split
  · exact hmatch
  · exact hmatch.erase sid

/-- An expired id is thrown away when it is met. -/
theorem Matches.isValid (hmatch : Matches h sessions ledger) (hnow : h ≤ now) (sid : String) :
    (sessionStore.isValid sid now sessions).1 = (ledgerStore.isValid sid now ledger).1 ∧
      Matches now (sessionStore.isValid sid now sessions).2
        (ledgerStore.isValid sid now ledger).2 := by
  unfold sessionStore ledgerStore
  dsimp only
  have hmono := hmatch.mono hnow
  split
  · next hempty => exact ⟨by simp [hempty], hmono⟩
  · next hne =>
      obtain heq | ⟨hnone, exp, hexp, hle⟩ := hmatch sid
      · cases hexp : sessions[sid]? with
        | none =>
            rw [← heq, hexp]
            exact ⟨by simp, hmono⟩
        | some exp =>
            rw [← heq, hexp]
            dsimp only
            split
            · next hle =>
                refine ⟨by simp [Rat.not_lt.mpr hle], ?_⟩
                intro other
                rw [Dict.getElem?_erase]
                split
                · next hsid =>
                    subst hsid
                    exact .inr ⟨rfl, exp, by rw [← heq, hexp], hle⟩
                · exact hmono other
            · next hlive => exact ⟨by simp [hne, Rat.not_le.mp hlive], hmono⟩
      · rw [hnone, hexp]
        exact ⟨by simp [Rat.not_lt.mpr (hle.trans hnow)], hmono⟩

/-! ## The two gateways -/

/-- The gateways differ in their stores only. -/
structure Alike (h : ℚ) (g : Gateway (Dict ℚ)) (g' : Gateway (Dict ℚ)) : Prop where
  env : g'.env = g.env
  viewerTokens : g'.viewerTokens = g.viewerTokens
  pending : g'.pending = g.pending
  sessions : Matches h g.sessions g'.sessions

variable {g g' : Gateway (Dict ℚ)}

theorem Matches.sessionOk (hmatch : Matches h sessions ledger) (hnow : h ≤ now) (sid : String) :
    (sessionOk sessionStore sid now sessions).1 = (sessionOk ledgerStore sid now ledger).1 ∧
      Matches now (sessionOk sessionStore sid now sessions).2
        (sessionOk ledgerStore sid now ledger).2 := by
  rw [Access.sessionOk, Access.sessionOk]
  split
  · exact ⟨rfl, hmatch.mono hnow⟩
  · exact hmatch.isValid hnow sid

theorem Matches.requireAdmin (hmatch : Matches h sessions ledger) (hnow : h ≤ now)
    (env : Environ) (c : Credentials) :
    (requireAdmin sessionStore env c now sessions).1 =
        (requireAdmin ledgerStore env c now ledger).1 ∧
      Matches now (requireAdmin sessionStore env c now sessions).2
        (requireAdmin ledgerStore env c now ledger).2 := by
  have hmono := hmatch.mono hnow
  have hok := hmatch.sessionOk hnow c.camAdmin
  rw [Access.requireAdmin, Access.requireAdmin]
  split
  · exact ⟨rfl, hmono⟩
  · split
    · exact ⟨rfl, hmono⟩
    · split
      · exact ⟨rfl, hmono⟩
      · exact ⟨by dsimp only; rw [hok.1], hok.2⟩

theorem Matches.requireViewer (hmatch : Matches h sessions ledger) (hnow : h ≤ now)
    (env : Environ) (c : Credentials) (viewerTokens : List String) :
    (requireViewer sessionStore env c now sessions viewerTokens).1 =
        (requireViewer ledgerStore env c now ledger viewerTokens).1 ∧
      Matches now (requireViewer sessionStore env c now sessions viewerTokens).2
        (requireViewer ledgerStore env c now ledger viewerTokens).2 := by
  have hmono := hmatch.mono hnow
  have hok := hmatch.sessionOk hnow c.camAdmin
  rw [Access.requireViewer, Access.requireViewer]
  split
  · exact ⟨rfl, hmono⟩
  · split
    · exact ⟨rfl, hmono⟩
    · exact ⟨by dsimp only; rw [hok.1], hok.2⟩

/-- A gate answers the same, and leaves the stores alike. -/
theorem Alike.gate (halike : Alike h g g') (hnow : h ≤ now) (route : Route) (c : Credentials) :
    (g.gate sessionStore route c now).1 = (g'.gate ledgerStore route c now).1 ∧
      Matches now (g.gate sessionStore route c now).2 (g'.gate ledgerStore route c now).2 := by
  unfold Gateway.gate
  rw [halike.env, halike.viewerTokens]
  cases route with
  | fleet | openSession | closeSession => exact halike.sessions.requireAdmin hnow g.env c
  | page => exact halike.sessions.requireViewer hnow g.env c g.viewerTokens
  | socket => exact ⟨rfl, halike.sessions.mono hnow⟩

theorem Matches.handle (hmatch : Matches h sessions ledger) (hnow : h ≤ now) (p : Pending)
    (minted : String) :
    (p.handle sessionStore minted now sessions).2 = (p.handle ledgerStore minted now ledger).2 ∧
      Matches now (p.handle sessionStore minted now sessions).1
        (p.handle ledgerStore minted now ledger).1 := by
  rw [Pending.handle, Pending.handle]
  cases p.route with
  | openSession => exact ⟨rfl, hmatch.create hnow minted⟩
  | closeSession => exact ⟨rfl, (hmatch.revoke p.credentials.camAdmin).mono hnow⟩
  | fleet | page | socket => exact ⟨rfl, hmatch.mono hnow⟩

/-- One step of each: the same is seen, and the gateways stay alike. -/
theorem Alike.step (halike : Alike h g g') (e : Event) (hnow : ∀ now, e.now = some now → h ≤ now) :
    (step sessionStore g e).2 = (step ledgerStore g' e).2 ∧
      Alike (e.now.getD h) (step sessionStore g e).1 (step ledgerStore g' e).1 := by
  cases e with
  | enter route c now =>
      have hgate := halike.gate (hnow now rfl) route c
      rw [Access.step, Access.step]
      revert hgate
      obtain ⟨outcome, sessions⟩ := g.gate sessionStore route c now
      obtain ⟨outcome', ledger⟩ := g'.gate ledgerStore route c now
      rintro ⟨rfl : outcome = outcome', hafter⟩
      cases outcome with
      | ok grant =>
          refine ⟨rfl, halike.env, halike.viewerTokens, ?_, hafter⟩
          dsimp only
          rw [halike.pending]
      | error refusal => exact ⟨rfl, halike.env, halike.viewerTokens, halike.pending, hafter⟩
  | handle i minted now =>
      rw [Access.step, Access.step, halike.pending]
      split
      · next p _ =>
          have hhandle := halike.sessions.handle (hnow now rfl) p minted
          exact ⟨hhandle.1, halike.env, halike.viewerTokens, rfl, hhandle.2⟩
      · exact ⟨rfl, halike.env, halike.viewerTokens, halike.pending,
          halike.sessions.mono (hnow now rfl)⟩
  | environ env => exact ⟨rfl, rfl, halike.viewerTokens, halike.pending, halike.sessions⟩
  | restart env viewerTokens =>
      refine ⟨rfl, rfl, rfl, rfl, ?_⟩
      intro sid
      exact .inl rfl

/-- The readings of the clock, in the order in which they were taken. -/
def readings (events : List Event) : List ℚ := events.filterMap Event.now

/-- A run of each, when the clock does not go back. -/
theorem Alike.run (events : List Event) (hclock : (h :: readings events).Pairwise (· ≤ ·))
    (halike : Alike h g g') :
    (machine sessionStore).trace g events = (machine ledgerStore).trace g' events ∧
      ∃ last, (last = h ∨ last ∈ readings events) ∧
        Alike last ((machine sessionStore).run g events) ((machine ledgerStore).run g' events) := by
  induction events generalizing h g g' with
  | nil => exact ⟨rfl, h, .inl rfl, halike⟩
  | cons e events ih =>
      have hle : ∀ now, e.now = some now → h ≤ now := by
        intro now hnow
        apply List.rel_of_pairwise_cons hclock
        rw [readings, List.filterMap_cons_some hnow]
        exact List.mem_cons_self
      obtain ⟨hseen, hnext⟩ := halike.step e hle
      have hlater : (e.now.getD h :: readings events).Pairwise (· ≤ ·) := by
        cases hnow : e.now with
        | none =>
            rw [readings, List.filterMap_cons_none hnow] at hclock
            exact hclock
        | some now =>
            rw [readings, List.filterMap_cons_some hnow] at hclock
            exact hclock.tail
      obtain ⟨htrace, last, hlast, hend⟩ := ih hlater hnext
      refine ⟨congrArg₂ (· ++ ·) hseen htrace, last, ?_, hend⟩
      cases hnow : e.now with
      | none =>
          rw [hnow] at hlast
          rw [readings, List.filterMap_cons_none hnow]
          exact hlast
      | some now =>
          rw [hnow] at hlast
          rw [readings, List.filterMap_cons_some hnow, List.mem_cons]
          exact .inr hlast

/-! ## The ledger, read off the reports -/

/-- What a report says about a session. -/
def Report.recall (sid : String) (held : Option ℚ) : Report → Option ℚ
  | .opened id exp _ => if id = sid then some exp else held
  | .closed id => if id = sid then none else held
  | .started => none
  | .admitted _ _ _ | .refused _ _ _ => held

/-- When the session expires that was opened last under this id, if it has not been closed
since, and the process has not started again. -/
def lastOpened (log : List Report) (sid : String) : Option ℚ :=
  log.foldl (Report.recall sid) none

theorem lastOpened_append (log more : List Report) (sid : String) :
    lastOpened (log ++ more) sid = more.foldl (Report.recall sid) (lastOpened log sid) :=
  List.foldl_append

theorem requireAdmin_ledger (env : Environ) (c : Credentials) (now : ℚ) (ledger : Dict ℚ) :
    (requireAdmin ledgerStore env c now ledger).2 = ledger := by
  rw [requireAdmin]
  split_ifs
  · rfl
  · rfl
  · rfl
  · rw [sessionOk]
    split_ifs
    all_goals rfl

theorem requireViewer_ledger (env : Environ) (c : Credentials) (now : ℚ) (ledger : Dict ℚ)
    (viewerTokens : List String) :
    (requireViewer ledgerStore env c now ledger viewerTokens).2 = ledger := by
  rw [requireViewer]
  split_ifs
  · rfl
  · rfl
  · rw [sessionOk]
    split_ifs
    all_goals rfl

theorem gate_ledger (g : Gateway (Dict ℚ)) (route : Route) (c : Credentials) (now : ℚ) :
    (g.gate ledgerStore route c now).2 = g.sessions := by
  unfold Gateway.gate
  cases route with
  | fleet | openSession | closeSession => exact requireAdmin_ledger g.env c now g.sessions
  | page => exact requireViewer_ledger g.env c now g.sessions g.viewerTokens
  | socket => rfl

/-- The ledger of the gateway is the one that is read off the reports. -/
def Recorded (g : Gateway (Dict ℚ)) (log : List Report) : Prop :=
  ∀ sid : String, sid ≠ "" → g.sessions[sid]? = lastOpened log sid

theorem Recorded.step {log : List Report} (hrec : Recorded g log) (e : Event) :
    Recorded (step ledgerStore g e).1 (log ++ (step ledgerStore g e).2) := by
  intro sid hsid
  have hold := hrec sid hsid
  rw [lastOpened_append]
  cases e with
  | enter route c now =>
      have hgate := gate_ledger g route c now
      rw [Access.step]
      revert hgate
      obtain ⟨outcome, ledger⟩ := g.gate ledgerStore route c now
      rintro rfl
      cases outcome with
      | ok grant => exact hold
      | error refusal => exact hold
  | handle i minted now =>
      rw [Access.step]
      split
      · next p _ =>
          rw [Pending.handle]
          cases p.route with
          | openSession =>
              show (g.sessions.insert minted (now + defaultTtlSeconds))[sid]? =
                if minted = sid then some (now + defaultTtlSeconds) else lastOpened log sid
              rw [Dict.getElem?_insert, hold]
          | closeSession =>
              show (if p.credentials.camAdmin = "" then g.sessions
                else g.sessions.erase p.credentials.camAdmin)[sid]? =
                  if p.credentials.camAdmin = sid then none else lastOpened log sid
              split
              · next hempty =>
                  rw [if_neg, hold]
                  rw [hempty]
                  exact Ne.symm hsid
              · rw [Dict.getElem?_erase, hold]
          | fleet | page | socket => exact hold
      · exact hold
  | environ env => exact hold
  | restart env viewerTokens => exact Std.ExtTreeMap.getElem?_empty

/-- The session that was opened last under this id is open and has not expired. -/
def Live (log : List Report) (sid : String) (now : ℚ) : Prop :=
  sid ≠ "" ∧ ∃ exp, lastOpened log sid = some exp ∧ now < exp

theorem Recorded.sessionOk {log : List Report} (hrec : Recorded g log) (sid : String) (now : ℚ) :
    (sessionOk ledgerStore sid now g.sessions).1 = true ↔ Live log sid now := by
  rw [Access.sessionOk, Live]
  split
  · next hempty => simp [hempty]
  · next hne =>
      show (sid ≠ "" && (g.sessions[sid]?.any fun exp => now < exp)) = true ↔ _
      rw [hrec sid hne]
      simp [hne, Option.any_eq_true]

theorem recorded_run (env : Environ) (viewerTokens : String) (events : List Event) :
    Recorded ((machine ledgerStore).run (Gateway.start ledgerStore env viewerTokens) events)
      ((machine ledgerStore).trace (Gateway.start ledgerStore env viewerTokens) events) := by
  apply (machine ledgerStore).run_trace_invariant (fun _ _ e hrec => hrec.step e)
  intro sid _
  exact Std.ExtTreeMap.getElem?_empty

@[simp] theorem isOk_ok (grant : Grant) : (Except.ok grant : Except Refusal Grant).isOk = true :=
  rfl

@[simp] theorem isOk_error (refusal : Refusal) :
    (Except.error refusal : Except Refusal Grant).isOk = false := rfl

theorem requireAdmin_isOk {log : List Report} (hrec : Recorded g log) (env : Environ)
    (c : Credentials) (now : ℚ) :
    (requireAdmin ledgerStore env c now g.sessions).1.isOk = true ↔
      env.authDisabled = true ∨ env.unset = false ∧
        (env.adminTokenOk c.xAdminToken = true ∨ Live log c.camAdmin now) := by
  rw [← hrec.sessionOk, requireAdmin]
  split_ifs with hoff hunset hadmin
  · simp [hoff]
  · simp [hoff, hunset]
  · simp [hoff, hunset, hadmin]
  · cases hlive : (sessionOk ledgerStore c.camAdmin now g.sessions).1 with
    | true => simp [hunset, hlive]
    | false => simp [hoff, hadmin, hlive]

theorem requireViewerToken_isOk (c : Credentials) (viewerTokens : List String) :
    (requireViewerToken c viewerTokens).isOk = true ↔
      viewerTokens = [] ∨ compareToAny viewerTokens c.supplied = true := by
  rw [requireViewerToken]
  split_ifs with hdev hok
  · simp [hdev]
  · simp [hok]
  all_goals simp [hdev, hok]

theorem requireViewer_isOk {log : List Report} (hrec : Recorded g log) (env : Environ)
    (c : Credentials) (now : ℚ) (viewerTokens : List String) :
    (requireViewer ledgerStore env c now g.sessions viewerTokens).1.isOk = true ↔
      env.authDisabled = true ∨ env.adminTokenOk c.xAdminToken = true ∨
        Live log c.camAdmin now ∨ viewerTokens = [] ∨
        compareToAny viewerTokens c.supplied = true := by
  rw [← hrec.sessionOk, ← requireViewerToken_isOk, requireViewer]
  split_ifs with hoff hadmin
  · simp [hoff]
  · simp [hadmin]
  · cases hlive : (sessionOk ledgerStore c.camAdmin now g.sessions).1 with
    | true => simp [hlive]
    | false => simp [hoff, hadmin, hlive]

/-- Once the clock has not gone back, the gates let in exactly these: everyone while
authentication is off; for the admin routes, once a token is set, whoever presents it or a
live session; for the viewer routes these too, and whoever presents a viewer token, or
anyone if there are none. -/
theorem admitted_iff (env : Environ) (viewerTokens : String) (events : List Event)
    (c : Credentials) (now : ℚ) (hclock : (readings events ++ [now]).Pairwise (· ≤ ·)) :
    let start := Gateway.start sessionStore env viewerTokens
    let g := (machine sessionStore).run start events
    let log := (machine sessionStore).trace start events
    ((requireAdmin sessionStore g.env c now g.sessions).1.isOk = true ↔
      g.env.authDisabled = true ∨ g.env.unset = false ∧
        (g.env.adminTokenOk c.xAdminToken = true ∨ Live log c.camAdmin now)) ∧
    ((requireViewer sessionStore g.env c now g.sessions g.viewerTokens).1.isOk = true ↔
      g.env.authDisabled = true ∨ g.env.adminTokenOk c.xAdminToken = true ∨
        Live log c.camAdmin now ∨ g.viewerTokens = [] ∨
        compareToAny g.viewerTokens c.supplied = true) := by
  intro start g log
  have hlater : ∀ t ∈ readings events, t ≤ now := by
    intro t ht
    exact (List.pairwise_append.mp hclock).2.2 t ht now (List.mem_singleton_self now)
  have hsorted := (List.pairwise_append.mp hclock).1
  -- The first reading is early enough for stores that are empty.
  have hfirst : ∃ h, (h :: readings events).Pairwise (· ≤ ·) ∧ h ≤ now := by
    cases hr : readings events with
    | nil => exact ⟨now, List.pairwise_singleton _ _, le_refl now⟩
    | cons t later =>
        rw [hr] at hsorted hlater
        refine ⟨t, List.pairwise_cons.mpr ⟨?_, hsorted⟩, hlater t List.mem_cons_self⟩
        intro t' ht'
        obtain rfl | hlate := List.mem_cons.mp ht'
        · exact le_refl t'
        · exact (List.pairwise_cons.mp hsorted).1 t' hlate
  obtain ⟨h, hsorted', hle⟩ := hfirst
  have halike : Alike h start (Gateway.start ledgerStore env viewerTokens) :=
    ⟨rfl, rfl, rfl, fun _ => .inl rfl⟩
  obtain ⟨htrace, last, hlast, hend⟩ := halike.run events hsorted'
  have hnow : last ≤ now := by
    obtain rfl | hlast := hlast
    · exact hle
    · exact hlater last hlast
  have hrec := recorded_run env viewerTokens events
  rw [← htrace] at hrec
  constructor
  · rw [(hend.sessions.requireAdmin hnow g.env c).1]
    exact requireAdmin_isOk hrec g.env c now
  · rw [(hend.sessions.requireViewer hnow g.env c g.viewerTokens).1]
    exact requireViewer_isOk hrec g.env c now g.viewerTokens

/-! ### A run -/

/-- The process with a token. -/
def sampleEnv : Environ where
  camAdminToken := some "0123456789abcdef"
  camAuthDisabled := none

/-- An operator logs in. -/
def sampleLogin : List Event :=
  [.enter .openSession { xAdminToken := "0123456789abcdef" } 100, .handle 0 "sid" 101]

theorem admitted_iff_sample :
    let g := (machine sessionStore).run (Gateway.start sessionStore sampleEnv "") sampleLogin
    (requireAdmin sessionStore g.env { camAdmin := "sid" } 43300 g.sessions).1.isOk = true ∧
      ¬ (requireAdmin sessionStore g.env { camAdmin := "sid" } 43301 g.sessions).1.isOk = true := by
  intro g
  have hunset : g.env.authDisabled = false ∧ g.env.unset = false := by decide +kernel
  have hopened : lastOpened ((machine sessionStore).trace
      (Gateway.start sessionStore sampleEnv "") sampleLogin) "sid" = some 43301 := by
    decide +kernel
  constructor
  · apply (admitted_iff sampleEnv "" sampleLogin { camAdmin := "sid" } 43300
      (by decide +kernel)).1.mpr
    refine .inr ⟨hunset.2, .inr ⟨by decide, 43301, hopened, by norm_num⟩⟩
  · rw [(admitted_iff sampleEnv "" sampleLogin { camAdmin := "sid" } 43301
      (by decide +kernel)).1]
    rintro (hoff | ⟨-, htoken | ⟨-, exp, hexp, hlive⟩⟩)
    · exact Bool.false_ne_true (hunset.1.symm.trans hoff)
    · cases htoken
    · rw [hopened] at hexp
      cases hexp
      exact absurd hlive (by norm_num)

/-! ## Where sessions come from -/

/-- What was seen since the process started. -/
def sinceStart (log : List Report) : List Report :=
  log.foldl (fun seen report =>
    match report with
    | .started => []
    | report => seen ++ [report]) []

/-- A request that was let in so opened this session. -/
def OpenedBy (log : List Report) (c : Credentials) (grant : Grant) (sid : String) : Prop :=
  .admitted .openSession c grant ∈ log ∧ ∃ exp, .opened sid exp grant ∈ log

/-- The session goes back to the admin token, or to a time when authentication was off. -/
inductive Rooted (log : List Report) : String → Prop
  | token {c : Credentials} {sid : String} : OpenedBy log c .adminToken sid → Rooted log sid
  | disabled {c : Credentials} {sid : String} : OpenedBy log c .disabled sid → Rooted log sid
  | session {c : Credentials} {sid : String} :
      OpenedBy log c (.session c.camAdmin) sid → Rooted log c.camAdmin → Rooted log sid

/-- What lets an admin in is itself rooted. -/
def Grant.Warranted (log : List Report) (c : Credentials) : Grant → Prop
  | .disabled | .adminToken => True
  | .session sid => sid = c.camAdmin ∧ Rooted log sid
  | .devMode | .viewerToken _ => False

/-- Every session is rooted, and so is every request that is still to be handled. -/
structure Sound (g : Gateway (Dict ℚ)) (log : List Report) : Prop where
  sessions : ∀ (sid : String) exp, g.sessions[sid]? = some exp → Rooted (sinceStart log) sid
  seen : ∀ p ∈ g.pending, .admitted p.route p.credentials p.grant ∈ sinceStart log
  pending : ∀ p ∈ g.pending, p.route.isAdmin = true →
    p.grant.Warranted (sinceStart log) p.credentials

theorem Rooted.mono {log more : List Report} (hsub : log ⊆ more) {sid : String}
    (h : Rooted log sid) : Rooted more sid := by
  have hopened : ∀ {c grant sid}, OpenedBy log c grant sid → OpenedBy more c grant sid := by
    rintro c grant sid ⟨hadmitted, exp, hexp⟩
    exact ⟨hsub hadmitted, exp, hsub hexp⟩
  induction h with
  | token h => exact .token (hopened h)
  | disabled h => exact .disabled (hopened h)
  | session h _ ih => exact .session (hopened h) ih

theorem Grant.Warranted.mono {log more : List Report} (hsub : log ⊆ more) {c : Credentials}
    {grant : Grant} (h : grant.Warranted log c) : grant.Warranted more c := by
  cases grant with
  | session sid => exact ⟨h.1, h.2.mono hsub⟩
  | disabled | adminToken | devMode | viewerToken token => exact h

theorem sinceStart_concat {report : Report} (hreport : report ≠ .started) (log : List Report) :
    sinceStart (log ++ [report]) = sinceStart log ++ [report] := by
  rw [sinceStart, List.foldl_append, List.foldl_cons, List.foldl_nil]
  cases report with
  | started => exact absurd rfl hreport
  | admitted route c grant | refused route c refusal | opened sid exp grant | closed sid => rfl

/-- A check of a session that succeeds finds it, and none is added. -/
theorem sessionOk_find (sessions : Dict ℚ) (sid : String) (now : ℚ) :
    ((sessionOk sessionStore sid now sessions).1 = true → ∃ exp, sessions[sid]? = some exp) ∧
      ∀ (other : String) exp, (sessionOk sessionStore sid now sessions).2[other]? = some exp →
        sessions[other]? = some exp := by
  rw [sessionOk]
  split
  · exact ⟨fun h => absurd h Bool.false_ne_true, fun _ _ h => h⟩
  · next hne =>
      unfold sessionStore
      dsimp only
      rw [if_neg hne]
      split
      · exact ⟨fun h => absurd h Bool.false_ne_true, fun _ _ h => h⟩
      · next exp hexp =>
          split
          · refine ⟨fun h => absurd h Bool.false_ne_true, ?_⟩
            intro other exp' h
            rw [Dict.getElem?_erase] at h
            split at h
            · cases h
            · exact h
          · exact ⟨fun _ => ⟨exp, hexp⟩, fun _ _ h => h⟩

theorem requireAdmin_find {env : Environ} {c : Credentials} {now : ℚ} :
    (∀ (sid : String) exp, (requireAdmin sessionStore env c now sessions).2[sid]? = some exp →
      sessions[sid]? = some exp) ∧
    ∀ grant, (requireAdmin sessionStore env c now sessions).1 = .ok grant →
      grant = .disabled ∨ grant = .adminToken ∨
        grant = .session c.camAdmin ∧ ∃ exp, sessions[c.camAdmin]? = some exp := by
  have hfind := sessionOk_find sessions c.camAdmin now
  rw [requireAdmin]
  split_ifs
  · exact ⟨fun _ _ h => h, fun _ h => .inl (Except.ok.inj h).symm⟩
  · exact ⟨fun _ _ h => h, fun _ h => by cases h⟩
  · exact ⟨fun _ _ h => h, fun _ h => .inr (.inl (Except.ok.inj h).symm)⟩
  · refine ⟨hfind.2, ?_⟩
    intro grant h
    dsimp only at h
    split at h
    · next hok => exact .inr (.inr ⟨(Except.ok.inj h).symm, hfind.1 hok⟩)
    · cases h

theorem requireViewer_find {env : Environ} {c : Credentials} {now : ℚ}
    {viewerTokens : List String} :
    (∀ (sid : String) exp,
      (requireViewer sessionStore env c now sessions viewerTokens).2[sid]? = some exp →
        sessions[sid]? = some exp) ∧
    ∀ sid, (requireViewer sessionStore env c now sessions viewerTokens).1 = .ok (.session sid) →
      sid = c.camAdmin ∧ ∃ exp, sessions[c.camAdmin]? = some exp := by
  have hfind := sessionOk_find sessions c.camAdmin now
  rw [requireViewer]
  split_ifs
  · exact ⟨fun _ _ h => h, fun _ h => by cases h⟩
  · exact ⟨fun _ _ h => h, fun _ h => by cases h⟩
  · refine ⟨hfind.2, ?_⟩
    intro sid h
    dsimp only at h
    split at h
    · next hok =>
        cases h
        exact ⟨rfl, hfind.1 hok⟩
    · rw [requireViewerToken] at h
      split_ifs at h
      all_goals cases h

/-- What a gate lets in is warranted, and the sessions are not more than before. -/
theorem Sound.gate {log : List Report} (hsound : Sound g log) (route : Route) (c : Credentials)
    (now : ℚ) :
    (∀ (sid : String) exp, (g.gate sessionStore route c now).2[sid]? = some exp →
      g.sessions[sid]? = some exp) ∧
    (∀ grant, route.isAdmin = true → (g.gate sessionStore route c now).1 = .ok grant →
      grant.Warranted (sinceStart log) c) ∧
    ∀ sid, (g.gate sessionStore route c now).1 = .ok (.session sid) →
      Rooted (sinceStart log) sid := by
  have hadmin : ∀ grant, (requireAdmin sessionStore g.env c now g.sessions).1 = .ok grant →
      grant.Warranted (sinceStart log) c := by
    intro grant h
    obtain rfl | rfl | ⟨rfl, exp, hexp⟩ := requireAdmin_find.2 grant h
    · trivial
    · trivial
    · exact ⟨rfl, hsound.sessions _ exp hexp⟩
  unfold Gateway.gate
  cases route with
  | fleet | openSession | closeSession =>
      refine ⟨requireAdmin_find.1, fun grant _ h => hadmin grant h, ?_⟩
      intro sid h
      exact (hadmin (.session sid) h).2
  | page =>
      refine ⟨requireViewer_find.1, fun _ h => absurd h Bool.false_ne_true, ?_⟩
      intro sid h
      obtain ⟨rfl, exp, hexp⟩ := requireViewer_find.2 sid h
      exact hsound.sessions _ exp hexp
  | socket =>
      refine ⟨fun _ _ h => h, fun _ h => absurd h Bool.false_ne_true, ?_⟩
      intro sid h
      dsimp only at h
      rw [requireViewerWs] at h
      split_ifs at h
      all_goals cases h

theorem Sound.mono {log : List Report} (hsound : Sound g log) (report : Report)
    (hreport : report ≠ .started) : Sound g (log ++ [report]) := by
  have hsub : sinceStart log ⊆ sinceStart (log ++ [report]) := by
    rw [sinceStart_concat hreport]
    exact List.subset_append_left _ _
  constructor
  · intro sid exp h
    exact (hsound.sessions sid exp h).mono hsub
  · intro p hp
    exact hsub (hsound.seen p hp)
  · intro p hp hadmin
    exact (hsound.pending p hp hadmin).mono hsub

/-- A request that was let in opens a session. -/
theorem OpenedBy.rooted {log : List Report} {c : Credentials} {grant : Grant} {sid : String}
    (hopened : OpenedBy log c grant sid) (hwarranted : grant.Warranted log c) :
    Rooted log sid := by
  cases grant with
  | adminToken => exact .token hopened
  | disabled => exact .disabled hopened
  | session parent =>
      obtain ⟨rfl, hparent⟩ := hwarranted
      exact .session hopened hparent
  | devMode | viewerToken token => exact hwarranted.elim

theorem Sound.handle {log : List Report} (hsound : Sound g log) {p : Pending}
    (hp : p ∈ g.pending) (minted : String) (now : ℚ) :
    Sound { g with sessions := (p.handle sessionStore minted now g.sessions).1 }
      (log ++ (p.handle sessionStore minted now g.sessions).2) := by
  rw [Pending.handle]
  cases hroute : p.route with
  | openSession =>
      have hlater := hsound.mono (.opened minted (now + defaultTtlSeconds) p.grant)
        (fun h => by cases h)
      refine ⟨?_, hlater.seen, hlater.pending⟩
      intro sid exp h
      change ((pruneLocked now g.sessions).insert minted (now + defaultTtlSeconds))[sid]? =
        some exp at h
      rw [Dict.getElem?_insert] at h
      split at h
      · next hsid =>
          subst hsid
          apply OpenedBy.rooted _ (hlater.pending p hp (by rw [hroute]; rfl))
          refine ⟨?_, now + defaultTtlSeconds, ?_⟩
          · rw [← hroute]
            exact hlater.seen p hp
          · rw [sinceStart_concat (fun h => by cases h)]
            exact List.mem_append_right _ (List.mem_singleton_self _)
      · rw [pruneLocked, Dict.getElem?_filter, Option.filter_eq_some_iff] at h
        exact hlater.sessions sid exp h.1
  | closeSession =>
      have hlater := hsound.mono (.closed p.credentials.camAdmin) (fun h => by cases h)
      refine ⟨?_, hlater.seen, hlater.pending⟩
      intro sid exp h
      change (if p.credentials.camAdmin = "" then g.sessions
        else g.sessions.erase p.credentials.camAdmin)[sid]? = some exp at h
      split at h
      · exact hlater.sessions sid exp h
      · rw [Dict.getElem?_erase] at h
        split at h
        · cases h
        · exact hlater.sessions sid exp h
  | fleet | page | socket =>
      rw [List.append_nil]
      exact hsound

theorem Sound.step {log : List Report} (hsound : Sound g log) (e : Event) :
    Sound (step sessionStore g e).1 (log ++ (step sessionStore g e).2) := by
  cases e with
  | enter route c now =>
      have hgate := hsound.gate route c now
      rw [Access.step]
      revert hgate
      obtain ⟨outcome, after⟩ := g.gate sessionStore route c now
      rintro ⟨hfound, hadmin, -⟩
      cases outcome with
      | ok grant =>
          have hlater := hsound.mono (.admitted route c grant) (fun h => by cases h)
          constructor
          · intro sid exp h
            exact hlater.sessions sid exp (hfound sid exp h)
          · intro p hp
            obtain hold | hnew := List.mem_append.mp hp
            · exact hlater.seen p hold
            · rw [List.mem_singleton.mp hnew, sinceStart_concat (fun h => by cases h)]
              exact List.mem_append_right _ (List.mem_singleton_self _)
          · intro p hp hroute
            obtain hold | hnew := List.mem_append.mp hp
            · exact hlater.pending p hold hroute
            · rw [List.mem_singleton.mp hnew] at hroute ⊢
              apply (hadmin grant hroute rfl).mono
              rw [sinceStart_concat (fun h => by cases h)]
              exact List.subset_append_left _ _
      | error refusal =>
          have hlater := hsound.mono (.refused route c refusal) (fun h => by cases h)
          exact ⟨fun sid exp h => hlater.sessions sid exp (hfound sid exp h), hlater.seen,
            hlater.pending⟩
  | handle i minted now =>
      rw [Access.step]
      split
      · next p hp =>
          have hlater := hsound.handle (List.mem_of_getElem? hp) minted now
          exact ⟨hlater.sessions, fun q hq => hlater.seen q (List.mem_of_mem_eraseIdx hq),
            fun q hq => hlater.pending q (List.mem_of_mem_eraseIdx hq)⟩
      · rw [List.append_nil]
        exact hsound
  | environ env =>
      rw [Access.step, List.append_nil]
      exact ⟨hsound.sessions, hsound.seen, hsound.pending⟩
  | restart env viewerTokens =>
      refine ⟨?_, ?_, ?_⟩
      · intro sid exp h
        change (∅ : Dict ℚ)[sid]? = some exp at h
        rw [Std.ExtTreeMap.getElem?_empty] at h
        cases h
      · intro p hp
        cases hp
      · intro p hp
        cases hp

/-- Whatever happens, and whatever the clock shows: whoever is let in with a session has one
that goes back, through sessions that opened one another since the process started, to a
request that presented the admin token or came while authentication was off. -/
theorem session_rooted (env : Environ) (viewerTokens : String) (events : List Event)
    (route : Route) (c : Credentials) (now : ℚ) (sid : String) :
    let start := Gateway.start sessionStore env viewerTokens
    (((machine sessionStore).run start events).gate sessionStore route c now).1 =
        .ok (.session sid) →
      Rooted (sinceStart ((machine sessionStore).trace start events)) sid := by
  intro start hgate
  have hsound : Sound ((machine sessionStore).run start events)
      ((machine sessionStore).trace start events) := by
    apply (machine sessionStore).run_trace_invariant (fun _ _ e hsound => hsound.step e)
    refine ⟨?_, ?_, ?_⟩
    · intro sid exp h
      change (∅ : Dict ℚ)[sid]? = some exp at h
      rw [Std.ExtTreeMap.getElem?_empty] at h
      cases h
    · intro p hp
      cases hp
    · intro p hp
      cases hp
  exact (hsound.gate route c now).2.2 sid hgate

theorem session_rooted_sample :
    Rooted (sinceStart ((machine sessionStore).trace
      (Gateway.start sessionStore sampleEnv "") sampleLogin)) "sid" :=
  session_rooted sampleEnv "" sampleLogin .page { camAdmin := "sid" } 200 "sid" (by decide +kernel)

end CameraStack.Access
