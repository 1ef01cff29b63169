/-
# Depth results reach their session

The page has one queue for each session, that of the newest connection.  So a result reaches every
connection of its session as long as only the newest one is open; and the table forgets a
connection that ends, provided its stream was started.  Connections that name no session share the
bucket `_legacy`, which is reached by a question that names just that.
-/

import CameraStack.Depth.Events

namespace CameraStack.Depth

open CameraStack.Lib CameraStack.Bringup CameraStack.Relay

/-! ## What is asked of a step -/

/-- Every entry of the table is the queue of a connection that is open under its session. -/
def Hub.Held (s : Hub) : Prop :=
  ∀ (key : String) i, s.subscribers[key]? = some i →
    ∃ c, s.connections[i]? = some c ∧ c.key = key ∧ c.isOpen = true

/-- A step puts answers only into queues of the session that asked; a broadcast reaches all of
them that are open and not full; and no entry of the table is left behind. -/
structure Setup.Exact (setup : Setup) (s : Hub) (e : Event) : Prop where
  only : ∀ d ∈ (depthMachine setup).emits s e, ∃ c session,
    s.connections[d.connection]? = some c ∧ c.sessionId = some session ∧
      sessionOf d.post.query = some session
  everyone : ∀ j clientHost post session i c, e = .broadcast j clientHost →
    s.publishing[j]? = some post → sessionOf post.query = some session →
    s.connections[i]? = some c → c.isOpen = true → c.sessionId = some session →
    c.queue.full subQueueMax = false →
    { connection := i, post := post } ∈ (depthMachine setup).emits s e
  held : ((depthMachine setup).next s e).Held

/-! ## When it holds -/

/-- No open connection of the session is older than another connection under it. -/
def Hub.OneNewest (s : Hub) (session : String) : Prop :=
  s.connections.Pairwise fun older newer =>
    ¬ (older.isOpen = true ∧ older.sessionId = some session ∧ newer.key = session)

instance (s : Hub) (session : String) : Decidable (s.OneNewest session) :=
  inferInstanceAs (Decidable (List.Pairwise _ _))

/-- An answer arrives in order: for a question with a session the page accepts it, only the newest
connection of the session is open, and the session is not the one that connections without a
session share, if there are any; for a question without a session the answer names no session
under which a connection is open. -/
def Setup.InOrder (setup : Setup) (s : Hub) (clientHost : String) (post : Post) : Prop :=
  match sessionOf post.query with
  | some session => setup.accepts clientHost = true ∧ s.OneNewest session ∧
      (session = "_legacy" → ∀ c ∈ s.connections, c.isOpen = true → c.sessionId ≠ none)
  | none => ∀ c ∈ s.connections, c.isOpen = true → Hub.bodySession post.body ≠ some c.key

instance (setup : Setup) (s : Hub) (clientHost : String) (post : Post) :
    Decidable (setup.InOrder s clientHost post) :=
  match h : sessionOf post.query with
  | some session => decidable_of_iff
      (setup.accepts clientHost = true ∧ s.OneNewest session ∧
        (session = "_legacy" → ∀ c ∈ s.connections, c.isOpen = true → c.sessionId ≠ none))
      (by rw [Setup.InOrder, h])
  | none => decidable_of_iff
      (∀ c ∈ s.connections, c.isOpen = true → Hub.bodySession post.body ≠ some c.key)
      (by rw [Setup.InOrder, h])

/-- A connection that ends has started its stream, or there is a newer one under its session; and
answers arrive in order. -/
def Setup.Orderly (setup : Setup) (s : Hub) : Event → Prop
  | .close i => ∀ c ∈ s.connections[i]?,
      c.stage ≠ .registered ∨ ∃ newer ∈ s.connections.drop (i + 1), newer.key = c.key
  | .broadcast j clientHost => ∀ post ∈ s.publishing[j]?, setup.InOrder s clientHost post
  | .connect _ | .start _ | .receive _ | .relay _ | .lose _ => True

instance (setup : Setup) (s : Hub) (e : Event) : Decidable (setup.Orderly s e) :=
  match e with
  | .close i => inferInstanceAs (Decidable (∀ c ∈ s.connections[i]?,
      c.stage ≠ .registered ∨ ∃ newer ∈ s.connections.drop (i + 1), newer.key = c.key))
  | .broadcast j clientHost =>
      inferInstanceAs (Decidable (∀ post ∈ s.publishing[j]?, setup.InOrder s clientHost post))
  | .connect _ | .start _ | .receive _ | .relay _ | .lose _ => isTrue trivial

/-! ## The table -/

/-- What the table knows of a connection. -/
def Connection.party (c : Connection) : String × Bool := (c.key, c.isOpen)

/-- The table has the newest connection of each session, while it is open. -/
def Hub.Tracked (s : Hub) : Prop := Dict.Newest (s.connections.map Connection.party) s.subscribers

/-- The posts on the way carry the session of their question. -/
def Post.Attached (post : Post) : Prop := ∃ reply, attach post.query reply = .ok post.body

/-- What the steps preserve. -/
structure Hub.Regular (s : Hub) : Prop where
  tracked : s.Tracked
  attached : ∀ post ∈ s.publishing, post.Attached

/-! ## Posts of the relay -/

/-- The relay posts an answer with the session of its question. -/
theorem posts_attached {topic : Topic} {bound : ℕ} {r : TopicState} {e : Relay.Event} :
    ∀ post ∈ posts ((relayMachine topic bound).emits r e), post.Attached := by
  intro post hmem
  obtain ⟨o, ho, hpost⟩ := List.mem_filterMap.mp hmem
  cases o with
  | publish url query body =>
      cases hpost
      exact publish_attached ho
  | sink | evicted | finished => cases hpost

/-- A question with a session has its answer delivered under that. -/
theorem Post.Attached.bodySession {post : Post} (h : post.Attached) {session : String}
    (hquery : sessionOf post.query = some session) :
    Hub.bodySession post.body = (some session).filter fun session => session ≠ "" := by
  obtain ⟨reply, hattach⟩ := h
  unfold attach at hattach
  rw [hquery] at hattach
  cases reply with
  | obj members =>
      rw [← Except.ok.inj hattach, Hub.bodySession, sessionOf, lookup_setMember_self]
  | null | bool | int | float | str | arr => cases hattach

/-! ## The steps -/

namespace Hub

variable {s : Hub} {i : ℕ}

/-- What is put into a queue, and when. -/
theorem mem_internalDepthBroadcast {secret clientHost : String} {header : Option String}
    {post : Post} {d : Delivery} :
    d ∈ (s.internalDepthBroadcast secret clientHost header post).2 ↔
      checkInternalAuth secret clientHost header = true ∧ ∃ session i c,
        bodySession post.body = some session ∧ s.subscribers[session]? = some i ∧
          s.connections[i]? = some c ∧ c.queue.full subQueueMax = false ∧
            d = { connection := i, post := post } := by
  rw [internalDepthBroadcast]
  constructor
  · intro h
    split_ifs at h with hauth
    · split at h
      · cases h
      · next session hsession =>
        split at h
        · cases h
        · next i hplace =>
          split at h
          · cases h
          · next c hc =>
            split at h
            · cases h
            · next queue hput =>
              exact ⟨hauth, session, i, c, hsession, hplace, hc,
                (TaskQueue.putNowait_eq_some.mp hput).1, List.mem_singleton.mp h⟩
    · cases h
  · rintro ⟨hauth, session, i, c, hsession, hplace, hc, hroom, rfl⟩
    have hput := (TaskQueue.putNowait_eq_some (a := post.body)).mpr ⟨hroom, rfl⟩
    rw [if_pos hauth]
    simp only [hsession, hplace, hc, hput]
    exact List.mem_singleton_self _

/-- A broadcast changes at most the queue of one connection. -/
theorem internalDepthBroadcast_state (secret clientHost : String) (header : Option String)
    (post : Post) : (s.internalDepthBroadcast secret clientHost header post).1 = s ∨
      ∃ i c queue, s.connections[i]? = some c ∧
        (s.internalDepthBroadcast secret clientHost header post).1 =
          { s with connections := s.connections.set i { c with queue := queue } } := by
  rw [internalDepthBroadcast]
  split_ifs
  · split
    · exact .inl rfl
    · split
      · exact .inl rfl
      · split
        · exact .inl rfl
        · next hc =>
          split
          · exact .inl rfl
          · exact .inr ⟨_, _, _, hc, rfl⟩
  · exact .inl rfl

/-- The table is that of the newest as long as the connections stay what they are to it. -/
theorem Tracked.of_parties {s' : Hub} (h : s.Tracked)
    (hparties : s'.connections.map Connection.party = s.connections.map Connection.party)
    (htable : s'.subscribers = s.subscribers) : s'.Tracked := by
  rw [Tracked, hparties, htable]
  exact h

theorem map_party_modify {f : Connection → Connection} (hf : ∀ c, (f c).party = c.party)
    (connections : List Connection) (i : ℕ) :
    (connections.modify i f).map Connection.party = connections.map Connection.party := by
  apply List.ext_getElem?
  intro k
  rw [List.getElem?_map, List.getElem?_map, List.getElem?_modify]
  cases connections[k]? with
  | none => rfl
  | some c =>
      simp only [Option.map_some]
      split_ifs
      · exact congrArg some (hf c)
      · rfl

theorem map_party_set {connections : List Connection} {c c' : Connection}
    (hc : connections[i]? = some c) (hparty : c'.party = c.party) :
    (connections.set i c').map Connection.party = connections.map Connection.party := by
  obtain ⟨hbound, rfl⟩ := List.getElem?_eq_some_iff.mp hc
  have hmap : i < (connections.map Connection.party).length := by
    rwa [List.length_map]
  rw [List.map_set, hparty, ← List.getElem_map Connection.party (h := hmap),
    List.set_getElem_self]

theorem Tracked.depthEvents (h : s.Tracked) (isalnum : Char → Bool) (requested : Option String) :
    (s.depthEvents isalnum requested).Tracked := by
  rw [Hub.depthEvents]
  split_ifs
  · have hnew := Dict.Newest.come h (sessionKey requested)
    rw [List.length_map] at hnew
    rw [Tracked, List.map_append]
    exact hnew
  · exact h

theorem Tracked.close (h : s.Tracked)
    (horderly : ∀ c ∈ s.connections[i]?,
      c.stage ≠ .registered ∨ ∃ newer ∈ s.connections.drop (i + 1), newer.key = c.key) :
    (s.close i).Tracked := by
  rw [Hub.close]
  cases hc : s.connections[i]? with
  | none => exact h
  | some c =>
      have hparty : (s.connections.map Connection.party)[i]? = some (c.key, c.isOpen) := by
        rw [List.getElem?_map, hc]
        rfl
      have hleave := h.leave hparty
      have hkeep : c.stage ≠ .streaming → s.subscribers[c.key]? ≠ some i := by
        intro hstage hplace
        have hopen := ((h c.key i).mp hplace).1
        cases hcase : c.stage with
        | streaming => exact hstage hcase
        | ended =>
            rw [hparty, Connection.isOpen, hcase] at hopen
            cases hopen
        | registered =>
            rcases horderly c hc with hstarted | ⟨newer, hnewer, hkey⟩
            · exact hstarted hcase
            · obtain ⟨k, hk⟩ := List.mem_iff_getElem?.mp hnewer
              rw [List.getElem?_drop] at hk
              have hnewest : (s.connections.map Connection.party)[i + 1 + k]? =
                  some (c.key, newer.isOpen) := by
                rw [List.getElem?_map, hk, ← hkey]
                rfl
              exact h.not_older (by omega) hnewest hplace
      have htable :
          (if c.stage = .streaming then cleanUp i c.key s.subscribers else s.subscribers) =
            if s.subscribers[c.key]? = some i then s.subscribers.erase c.key
            else s.subscribers := by
        by_cases hstage : c.stage = .streaming
        · rw [if_pos hstage, cleanUp]
        · rw [if_neg hstage, if_neg (hkeep hstage)]
      rw [Tracked]
      dsimp only
      rw [List.map_set, htable]
      exact hleave

theorem Tracked.held (h : s.Tracked) : s.Held := by
  intro key i hplace
  have hparty := ((h key i).mp hplace).1
  rw [List.getElem?_map] at hparty
  obtain ⟨c, hc, heq⟩ := Option.map_eq_some_iff.mp hparty
  obtain ⟨hkey, hopen⟩ := Prod.mk.inj heq
  exact ⟨c, hc, hkey, hopen⟩

/-- The newest connection of a session is in the table while it is open. -/
theorem Tracked.place (h : s.Tracked) {session : String} (hone : s.OneNewest session)
    {c : Connection} (hc : s.connections[i]? = some c) (hopen : c.isOpen = true)
    (hsession : c.sessionId = some session) : s.subscribers[session]? = some i := by
  have hkey : c.key = session := by
    rw [Connection.sessionId] at hsession
    rw [Connection.key, sessionKey, hsession]
    rfl
  refine (h session i).mpr ⟨?_, fun k present hlt hk => ?_⟩
  · rw [List.getElem?_map, hc, Option.map_some, Connection.party, hkey, hopen]
  · rw [List.getElem?_map] at hk
    obtain ⟨newer, hnewer, heq⟩ := Option.map_eq_some_iff.mp hk
    obtain ⟨hi, rfl⟩ := List.getElem?_eq_some_iff.mp hc
    obtain ⟨hj, rfl⟩ := List.getElem?_eq_some_iff.mp hnewer
    exact List.pairwise_iff_getElem.mp hone i k hi hj hlt
      ⟨hopen, hsession, (Prod.mk.inj heq).1⟩

theorem Regular.broadcast (h : s.Regular) (secret clientHost : String) (header : Option String)
    (post : Post) (j : ℕ) :
    ({ s with publishing := s.publishing.eraseIdx j }.internalDepthBroadcast secret clientHost
      header post).1.Regular := by
  have herased : ∀ post ∈ s.publishing.eraseIdx j, post.Attached :=
    fun post hmem => h.attached post (List.mem_of_mem_eraseIdx hmem)
  rcases @internalDepthBroadcast_state { s with publishing := s.publishing.eraseIdx j } secret
    clientHost header post with hsame | ⟨i, c, queue, hc, hset⟩
  · rw [hsame]
    exact ⟨h.tracked, herased⟩
  · rw [hset]
    exact ⟨h.tracked.of_parties (map_party_set hc rfl) rfl, herased⟩

end Hub

section Step

variable {setup : Setup} {s : Hub} {e : Event}

theorem Hub.Regular.next (h : s.Regular) (horderly : setup.Orderly s e) :
    ((depthMachine setup).next s e).Regular := by
  cases e with
  | connect requested =>
      refine ⟨h.tracked.depthEvents setup.isalnum requested, ?_⟩
      show ∀ post ∈ (s.depthEvents setup.isalnum requested).publishing, post.Attached
      rw [Hub.depthEvents]
      split_ifs
      · exact h.attached
      · exact h.attached
  | start i =>
      refine ⟨h.tracked.of_parties (Hub.map_party_modify (fun c => ?_) _ i) rfl, h.attached⟩
      split_ifs with hstage
      · simp [Connection.party, Connection.key, Connection.isOpen, hstage]
      · rfl
  | receive i =>
      refine ⟨h.tracked.of_parties (Hub.map_party_modify (fun c => ?_) _ i) rfl, h.attached⟩
      split
      · rfl
      · rfl
  | close i =>
      refine ⟨h.tracked.close horderly, ?_⟩
      show ∀ post ∈ (s.close i).publishing, post.Attached
      rw [Hub.close]
      split
      · exact h.attached
      · exact h.attached
  | relay e =>
      refine ⟨h.tracked.of_parties rfl rfl, fun post hmem => ?_⟩
      rcases List.mem_append.mp hmem with hold | hnew
      · exact h.attached post hold
      · exact posts_attached post hnew
  | broadcast j clientHost =>
      rw [Machine.next, depthMachine]
      dsimp only
      split
      · exact h
      · exact h.broadcast _ _ _ _ j
  | lose j =>
      exact ⟨h.tracked.of_parties rfl rfl,
        fun post hmem => h.attached post (List.mem_of_mem_eraseIdx hmem)⟩

theorem named_ne_empty {requested : Option String} : named requested ≠ some "" := by
  unfold named
  split
  · nofun
  · next hnonempty => exact hnonempty

/-- What is put into a queue when an answer arrives. -/
theorem mem_emits_broadcast {j : ℕ} {clientHost : String} {d : Delivery} :
    d ∈ (depthMachine setup).emits s (.broadcast j clientHost) ↔
      ∃ post, s.publishing[j]? = some post ∧ setup.accepts clientHost = true ∧
        ∃ session i c, Hub.bodySession post.body = some session ∧
          s.subscribers[session]? = some i ∧ s.connections[i]? = some c ∧
            c.queue.full subQueueMax = false ∧ d = { connection := i, post := post } := by
  rw [Machine.emits, depthMachine]
  dsimp only
  cases hpost : s.publishing[j]? with
  | none => simp
  | some post =>
      dsimp only
      rw [Hub.mem_internalDepthBroadcast]
      constructor
      · rintro ⟨hauth, hput⟩
        exact ⟨post, rfl, hauth, hput⟩
      · rintro ⟨_, ⟨⟩, hauth, hput⟩
        exact ⟨hauth, hput⟩

/-- An answer that arrives in order is put into a queue of its session. -/
theorem Hub.Regular.only (h : s.Regular) (horderly : setup.Orderly s e) :
    ∀ d ∈ (depthMachine setup).emits s e, ∃ c session,
      s.connections[d.connection]? = some c ∧ c.sessionId = some session ∧
        sessionOf d.post.query = some session := by
  intro d hd
  cases e with
  | connect | start | receive | close | relay | lose => cases hd
  | broadcast j clientHost =>
      obtain ⟨post, hpost, -, key, i, c, hbody, hplace, hc, -, rfl⟩ := mem_emits_broadcast.mp hd
      obtain ⟨c', hc', hkey, hopen⟩ := h.tracked.held key i hplace
      rw [hc] at hc'
      cases hc'
      have hin := horderly post hpost
      have hmem := List.mem_of_getElem? hc
      unfold Setup.InOrder at hin
      cases hquery : sessionOf post.query with
      | none =>
          rw [hquery] at hin
          exact absurd (hbody.trans (congrArg some hkey.symm)) (hin c hmem hopen)
      | some session =>
          rw [hquery] at hin
          rw [(h.attached post (List.mem_of_getElem? hpost)).bodySession hquery,
            Option.filter_eq_some_iff] at hbody
          obtain rfl : session = key := Option.some.inj hbody.1
          refine ⟨c, session, hc, ?_, rfl⟩
          rw [Connection.key, sessionKey] at hkey
          rw [Connection.sessionId]
          cases hnamed : named c.requested with
          | some other =>
              rw [hnamed] at hkey
              exact congrArg some hkey
          | none =>
              rw [hnamed] at hkey
              exact absurd hnamed (hin.2.2 hkey.symm c hmem hopen)

/-- An answer that arrives in order reaches the open connections of its session that have room. -/
theorem Hub.Regular.everyone (h : s.Regular) (horderly : setup.Orderly s e) :
    ∀ j clientHost post session i c, e = .broadcast j clientHost →
      s.publishing[j]? = some post → sessionOf post.query = some session →
      s.connections[i]? = some c → c.isOpen = true → c.sessionId = some session →
      c.queue.full subQueueMax = false →
      { connection := i, post := post } ∈ (depthMachine setup).emits s e := by
  rintro j clientHost post session i c rfl hpost hquery hc hopen hsession hroom
  have hin := horderly post hpost
  unfold Setup.InOrder at hin
  rw [hquery] at hin
  have hbody := (h.attached post (List.mem_of_getElem? hpost)).bodySession hquery
  have hnamed : session ≠ "" := by
    rintro rfl
    exact named_ne_empty hsession
  rw [Option.filter_some, if_pos (decide_eq_true hnamed)] at hbody
  exact mem_emits_broadcast.mpr ⟨post, hpost, hin.1, session, i, c, hbody,
    h.tracked.place hin.2.1 hc hopen hsession, hc, hroom, rfl⟩

end Step

/-- In an orderly run depth results reach exactly their session. -/
theorem results_reach_their_session (setup : Setup) {events : List Event}
    (horderly : (depthMachine setup).Along setup.Orderly setup.hub events) :
    (depthMachine setup).Along setup.Exact setup.hub events := by
  have hregular : setup.hub.Regular :=
    ⟨Dict.newest_nil, List.forall_mem_nil _⟩
  refine Machine.along_of_invariant (I := Hub.Regular) (depthMachine setup)
    (fun _ _ h hstep => h.next hstep) (fun s e h hstep => ?_) horderly hregular
  exact ⟨h.only hstep, h.everyone hstep, (h.next hstep).tracked.held⟩

/-! ## Two sessions -/

/-- The services with the configuration that comes with them, where names are written in ASCII. -/
def sampleSetup : Setup where
  isalnum := Char.isAlphanum

/-- A click of a browser, and the answer of the sink, which the relay posts. -/
def sampleClick (session : String) : List Event :=
  let query : Members := [("topic", .str "depth_query"), ("session_id", .str session)]
  let answer : Response := { statusCode := 200, json := .ok (.obj [("depth", .int 1500)]) }
  [.relay (.hook query 0), .relay (.take 1000), .relay (.answer (.ok answer) 1000)]

theorem results_reach_their_session_two :
    (depthMachine sampleSetup).Along sampleSetup.Exact sampleSetup.hub
      ([.connect (some "tab-1"), .connect (some "tab-2"), .start 0, .start 1] ++
        sampleClick "tab-1" ++ [.broadcast 0 "127.0.0.1", .close 0]) :=
  results_reach_their_session sampleSetup (by decide +kernel)

/-- Two tabs with one session, and a click. -/
def sampleTabs : List Event :=
  [.connect (some "tab"), .start 0, .connect (some "tab"), .start 1] ++ sampleClick "tab"

/-- The services behind the click. -/
def sampleHub : Hub := (depthMachine sampleSetup).run sampleSetup.hub sampleTabs

/-- The second connection of a session takes the place of the first, which the answer does not
reach. -/
theorem second_tab_displaces_first :
    ¬ (depthMachine sampleSetup).Along sampleSetup.Exact sampleSetup.hub
      (sampleTabs ++ [.broadcast 0 "127.0.0.1"]) := by
  intro h
  have hlast : sampleSetup.Exact sampleHub (.broadcast 0 "127.0.0.1") :=
    ((Machine.along_append _ _ _ _).mp h).2.1
  have hquery : (sampleHub.publishing[0]?.map fun post => sessionOf post.query) =
      some (some "tab") := by
    decide +kernel
  have hfirst : (sampleHub.connections[0]?.map fun c =>
      (c.isOpen, c.sessionId, c.queue.full subQueueMax)) = some (true, some "tab", false) := by
    decide +kernel
  obtain ⟨post, hpost, hsession⟩ := Option.map_eq_some_iff.mp hquery
  obtain ⟨c, hc, hstate⟩ := Option.map_eq_some_iff.mp hfirst
  obtain ⟨hopen, hrest⟩ := Prod.mk.inj hstate
  obtain ⟨hnamed, hroom⟩ := Prod.mk.inj hrest
  have hput := hlast.everyone 0 "127.0.0.1" post "tab" 0 c rfl hpost hsession hc hopen hnamed hroom
  have hreached : 0 ∈ ((depthMachine sampleSetup).emits sampleHub
      (.broadcast 0 "127.0.0.1")).map Delivery.connection := List.mem_map_of_mem hput
  exact absurd hreached (by decide +kernel)

end CameraStack.Depth
