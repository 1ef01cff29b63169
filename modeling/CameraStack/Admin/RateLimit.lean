/-
# The rate limiter

Every client has a bucket of tokens, which is filled up as time goes by, and each request takes one.
A bucket that has been idle for a minute is thrown away, and the next request of its client finds a
full one.  That goes unnoticed if a minute is enough to fill any bucket.

Times and tokens are exact.  A request reads the clock three times: for the cleanup, for a bucket
that is new, and for the tokens.
-/

import CameraStack.Lib.Machine
import CameraStack.Lib.Text
import Mathlib.Data.Rat.Floor
import Mathlib.Tactic.FieldSimp
import Mathlib.Tactic.Linarith

namespace CameraStack.Admin.RateLimit

open CameraStack.Lib

/-! ## Buckets -/

/-- What a bucket is made with: tokens in a second, and the tokens of a full bucket. -/
structure Limits where
  rate : ℚ
  burst : ℚ

/-- `_Bucket`. -/
structure Bucket where
  tokens : ℚ
  last : ℚ

/-- A new bucket is full. -/
def Limits.fresh (l : Limits) (now : ℚ) : Bucket := { tokens := l.burst, last := now }

/-- The tokens of a bucket at a time. -/
def Limits.filled (l : Limits) (b : Bucket) (now : ℚ) : ℚ :=
  min l.burst (b.tokens + (now - b.last) * l.rate)

/-- `consume`. -/
def Limits.consume (l : Limits) (b : Bucket) (now : ℚ) : Bucket × Bool :=
  if 1 ≤ l.filled b now then ({ tokens := l.filled b now - 1, last := now }, true)
  else ({ tokens := l.filled b now, last := now }, false)

/-! ## Requests -/

/-- A request: where it comes from, and the three readings of the clock. -/
structure Request where
  host : Option String
  forwardedFor : String
  now : ℚ
  created : ℚ
  consumed : ℚ

/-- `_get_client_ip`. -/
def getClientIp (trustedProxies : List String) (r : Request) : String :=
  let clientIp := r.host.getD "unknown"
  if clientIp ∈ trustedProxies then
    if r.forwardedFor = "" then clientIp
    else pyStrip (String.ofList (r.forwardedFor.toList.takeWhile (· ≠ ',')))
  else clientIp

/-! ## The limiter -/

/-- The buckets, and when they were last looked through. -/
structure State where
  buckets : String → Option Bucket
  lastCleanup : ℚ

/-- `_CLEANUP_SEC`. -/
def cleanupSec : ℚ := 60

/-- The state when the module is imported. -/
def initial (start : ℚ) : State where
  buckets _ := none
  lastCleanup := start

/-- The periodic cleanup. -/
def State.cleanup (s : State) (now : ℚ) : State :=
  if now - s.lastCleanup > cleanupSec then
    { buckets := fun k => (s.buckets k).filter fun b => decide (¬ now - b.last > cleanupSec)
      lastCleanup := now }
  else s

/-- The bucket that a client's request takes its token from. -/
def State.bucket (s : State) (l : Limits) (client : String) (created : ℚ) : Bucket :=
  (s.buckets client).getD (l.fresh created)

/-- A request behind the cleanup. -/
def State.serve (s : State) (l : Limits) (client : String) (created consumed : ℚ) : State × Bool :=
  let taken := l.consume (s.bucket l client created) consumed
  ({ s with buckets := Function.update s.buckets client (some taken.1) }, taken.2)

/-- `require_rate_limit` with a pair of limits, with its cleanup or without: whether each request is
admitted. -/
def limiter (clean : Bool) (l : Limits) (trustedProxies : List String) :
    Machine State Request Bool where
  step s r :=
    let before := if clean then s.cleanup r.now else s
    let after := before.serve l (getClientIp trustedProxies r) r.created r.consumed
    (after.1, [after.2])

/-- The settings from the environment. -/
structure Settings where
  rateLimitRps : ℚ
  rateLimitBurst : ℚ
  adminRateLimitRpm : ℚ
  adminRateLimitBurst : ℚ

/-- The limits of `require_rate_limit`. -/
def Settings.limits (s : Settings) : Limits where
  rate := s.rateLimitRps
  burst := s.rateLimitBurst

/-- The limits of `require_admin_rate_limit`. -/
def Settings.adminLimits (s : Settings) : Limits where
  rate := s.adminRateLimitRpm / 60
  burst := s.adminRateLimitBurst

/-! ## What is asked of the cleanup -/

/-- The clock does not go back. -/
def ReadInOrder : ℚ → List Request → Prop
  | _, [] => True
  | t, r :: rs => t ≤ r.now ∧ r.now ≤ r.created ∧ r.created ≤ r.consumed ∧ ReadInOrder r.consumed rs

/-- The cleanup goes unnoticed: the same requests are admitted without it. -/
def Unobservable (l : Limits) : Prop :=
  ∀ trustedProxies start requests, ReadInOrder start requests →
    (limiter true l trustedProxies).trace (initial start) requests =
      (limiter false l trustedProxies).trace (initial start) requests

/-! ## Limits below one token -/

theorem filled_le_burst (l : Limits) (b : Bucket) (now : ℚ) : l.filled b now ≤ l.burst :=
  min_le_left _ _

theorem consume_of_burst_lt {l : Limits} (h : l.burst < 1) (b : Bucket) (now : ℚ) :
    (l.consume b now).2 = false := by
  rw [Limits.consume, if_neg (not_le.mpr ((filled_le_burst l b now).trans_lt h))]

/-- Where a full bucket has less than one token, no request is admitted. -/
theorem trace_of_burst_lt {l : Limits} (h : l.burst < 1) (clean : Bool)
    (trustedProxies : List String) (s : State) (requests : List Request) :
    (limiter clean l trustedProxies).trace s requests = List.replicate requests.length false := by
  induction requests generalizing s with
  | nil => rfl
  | cons r requests ih =>
      rw [Machine.trace_cons, ih, List.length_cons, List.replicate_succ]
      have hemits : (limiter clean l trustedProxies).emits s r = [false] :=
        congrArg (fun b => [b]) (consume_of_burst_lt h _ _)
      rw [hemits, List.singleton_append]

/-! ## Buckets that fill up in a minute -/

theorem filled_nonneg {l : Limits} (hburst : 0 ≤ l.burst) (hrate : 0 ≤ l.rate) {b : Bucket}
    {now : ℚ} (htokens : 0 ≤ b.tokens) (hlast : b.last ≤ now) : 0 ≤ l.filled b now := by
  have helapsed : 0 ≤ (now - b.last) * l.rate := mul_nonneg (sub_nonneg.mpr hlast) hrate
  exact le_min hburst (add_nonneg htokens helapsed)

theorem consume_nonneg {l : Limits} {b : Bucket} {now : ℚ} (h : 0 ≤ l.filled b now) :
    0 ≤ (l.consume b now).1.tokens := by
  rw [Limits.consume]
  split_ifs with hone
  · exact sub_nonneg.mpr hone
  · exact h

theorem consume_last (l : Limits) (b : Bucket) (now : ℚ) : (l.consume b now).1.last = now := by
  rw [Limits.consume]
  split_ifs
  · rfl
  · rfl

/-- What a request finds depends on the tokens of its bucket only. -/
theorem consume_congr {l : Limits} {b b' : Bucket} {now : ℚ}
    (h : l.filled b now = l.filled b' now) : l.consume b now = l.consume b' now := by
  rw [Limits.consume, Limits.consume, h]

/-- A bucket that is idle for a minute is full. -/
theorem filled_of_idle {l : Limits} (hrate : 0 ≤ l.rate) (hfull : l.burst ≤ cleanupSec * l.rate)
    {b : Bucket} {now : ℚ} (htokens : 0 ≤ b.tokens) (hidle : b.last + cleanupSec ≤ now) :
    l.filled b now = l.burst := by
  have helapsed : cleanupSec * l.rate ≤ (now - b.last) * l.rate :=
    mul_le_mul_of_nonneg_right (by linarith) hrate
  exact min_eq_left (by linarith)

/-- A bucket that is new is full. -/
theorem filled_fresh {l : Limits} (hrate : 0 ≤ l.rate) {created now : ℚ} (h : created ≤ now) :
    l.filled (l.fresh created) now = l.burst := by
  have helapsed : 0 ≤ (now - created) * l.rate := mul_nonneg (sub_nonneg.mpr h) hrate
  exact min_eq_left (le_add_of_nonneg_right helapsed)

/-- The limiter with the cleanup follows the one without it: they have the same buckets, but for
those that have been idle for a minute. -/
structure Follows (t : ℚ) (s s' : State) : Prop where
  nonneg : ∀ k b, s'.buckets k = some b → 0 ≤ b.tokens
  last : ∀ k b, s'.buckets k = some b → b.last ≤ t
  same : ∀ k, s.buckets k = s'.buckets k ∨
    s.buckets k = none ∧ ∃ b, s'.buckets k = some b ∧ b.last + cleanupSec ≤ t

theorem follows_initial (start : ℚ) : Follows start (initial start) (initial start) :=
  ⟨nofun, nofun, fun _ => .inl rfl⟩

theorem Follows.mono {t t' : ℚ} {s s' : State} (h : Follows t s s') (hle : t ≤ t') :
    Follows t' s s' := by
  refine ⟨h.nonneg, fun k b hb => (h.last k b hb).trans hle, fun k => (h.same k).imp_right ?_⟩
  rintro ⟨hnone, b, hb, hidle⟩
  exact ⟨hnone, b, hb, hidle.trans hle⟩

/-- The cleanup throws away buckets that have been idle for a minute. -/
theorem Follows.cleanup {t : ℚ} {s s' : State} (h : Follows t s s') :
    Follows t (s.cleanup t) s' := by
  refine ⟨h.nonneg, h.last, fun k => ?_⟩
  rw [State.cleanup]
  split_ifs with hdue
  · dsimp only
    rcases h.same k with hsame | ⟨hnone, hidle⟩
    · rw [hsame]
      cases hb : s'.buckets k with
      | none => exact .inl rfl
      | some b =>
          by_cases hold : t - b.last > cleanupSec
          · refine .inr ⟨?_, b, rfl, by linarith⟩
            rw [Option.filter_some, if_neg (by rw [decide_eq_true_eq]; exact not_not.mpr hold)]
          · refine .inl ?_
            rw [Option.filter_some, if_pos (decide_eq_true hold)]
    · exact .inr ⟨by rw [hnone]; rfl, hidle⟩
  · exact h.same k

theorem serve_buckets_self (s : State) (l : Limits) (client : String) (created consumed : ℚ) :
    (s.serve l client created consumed).1.buckets client =
      some (l.consume (s.bucket l client created) consumed).1 :=
  Function.update_self client _ _

theorem serve_buckets_of_ne (s : State) (l : Limits) {client k : String} (h : k ≠ client)
    (created consumed : ℚ) :
    (s.serve l client created consumed).1.buckets k = s.buckets k :=
  Function.update_of_ne h _ _

/-- A request is answered as it would be without the cleanup, and the limiters go on together. -/
theorem Follows.serve {l : Limits} (hburst : 0 ≤ l.burst) (hrate : 0 ≤ l.rate)
    (hfull : l.burst ≤ cleanupSec * l.rate) {t created consumed : ℚ} {s s' : State}
    (h : Follows t s s') (hcreated : t ≤ created) (hconsumed : created ≤ consumed)
    (client : String) :
    (s.serve l client created consumed).2 = (s'.serve l client created consumed).2 ∧
      Follows consumed (s.serve l client created consumed).1
        (s'.serve l client created consumed).1 := by
  have hsame : l.consume (s.bucket l client created) consumed =
      l.consume (s'.bucket l client created) consumed := by
    rcases h.same client with hsame | ⟨hnone, b, hb, hidle⟩
    · rw [State.bucket, State.bucket, hsame]
    · rw [State.bucket, State.bucket, hnone, hb]
      refine consume_congr ((filled_fresh hrate hconsumed).trans ?_)
      exact (filled_of_idle hrate hfull (h.nonneg client b hb) (by linarith)).symm
  have htokens : 0 ≤ (s'.bucket l client created).tokens := by
    rw [State.bucket]
    cases hb : s'.buckets client with
    | none => exact hburst
    | some b => exact h.nonneg client b hb
  have hlast : (s'.bucket l client created).last ≤ consumed := by
    rw [State.bucket]
    cases hb : s'.buckets client with
    | none => exact hconsumed
    | some b => exact (h.last client b hb).trans (hcreated.trans hconsumed)
  have hmono := h.mono (hcreated.trans hconsumed)
  refine ⟨congrArg (fun taken : Bucket × Bool => taken.2) hsame, fun k b hb => ?_, fun k b hb => ?_,
    fun k => ?_⟩
  · rcases eq_or_ne k client with rfl | hne
    · cases (serve_buckets_self s' l k created consumed).symm.trans hb
      exact consume_nonneg (filled_nonneg hburst hrate htokens hlast)
    · exact hmono.nonneg k b ((serve_buckets_of_ne s' l hne created consumed).symm.trans hb)
  · rcases eq_or_ne k client with rfl | hne
    · cases (serve_buckets_self s' l k created consumed).symm.trans hb
      exact (consume_last _ _ _).le
    · exact hmono.last k b ((serve_buckets_of_ne s' l hne created consumed).symm.trans hb)
  · rcases eq_or_ne k client with rfl | hne
    · rw [serve_buckets_self, serve_buckets_self, hsame]
      exact .inl rfl
    · rw [serve_buckets_of_ne s l hne, serve_buckets_of_ne s' l hne]
      exact hmono.same k

/-- Where a minute is enough to fill a bucket, the cleanup goes unnoticed along any run. -/
theorem trace_of_follows {l : Limits} (hburst : 0 ≤ l.burst) (hrate : 0 ≤ l.rate)
    (hfull : l.burst ≤ cleanupSec * l.rate) (trustedProxies : List String)
    {requests : List Request} {t : ℚ} {s s' : State} (h : Follows t s s')
    (horder : ReadInOrder t requests) :
    (limiter true l trustedProxies).trace s requests =
      (limiter false l trustedProxies).trace s' requests := by
  induction requests generalizing t s s' with
  | nil => rfl
  | cons r requests ih =>
      obtain ⟨hnow, hcreated, hconsumed, hrest⟩ := horder
      obtain ⟨hanswer, hnext⟩ := (h.mono hnow).cleanup.serve hburst hrate hfull hcreated hconsumed
        (getClientIp trustedProxies r)
      rw [Machine.trace_cons, Machine.trace_cons]
      exact congrArg₂ (fun b rest => [b] ++ rest) hanswer (ih hnext hrest)

/-! ## Buckets that take longer -/

/-- The address of one client. -/
def sampleHost : String := "192.0.2.1"

/-- A request of the client, at a time. -/
def sample (t : ℚ) : Request where
  host := some sampleHost
  forwardedFor := ""
  now := t
  created := t
  consumed := t

section Sample

variable {l : Limits} {clean : Bool} {s : State} {t : ℚ}

/-- Without the cleanup, or within a minute of the last one, a request goes to its bucket at
once. -/
theorem step_quiet (h : clean = true → t - s.lastCleanup ≤ cleanupSec) :
    (limiter clean l []).step s (sample t) =
      ((s.serve l sampleHost t t).1, [(s.serve l sampleHost t t).2]) := by
  cases clean with
  | false => rfl
  | true =>
      have hcleanup : s.cleanup t = s := if_neg (not_lt.mpr (h rfl))
      show (((s.cleanup t).serve l sampleHost t t).1,
        [((s.cleanup t).serve l sampleHost t t).2]) = _
      rw [hcleanup]

/-- A request is admitted where its bucket has a token. -/
theorem take_token (hquiet : clean = true → t - s.lastCleanup ≤ cleanupSec)
    (hfilled : 1 ≤ l.filled (s.bucket l sampleHost t) t) :
    (limiter clean l []).emits s (sample t) = [true] ∧
      ((limiter clean l []).next s (sample t)).buckets sampleHost =
        some { tokens := l.filled (s.bucket l sampleHost t) t - 1, last := t } ∧
      ((limiter clean l []).next s (sample t)).lastCleanup = s.lastCleanup := by
  have htaken : l.consume (s.bucket l sampleHost t) t =
      ({ tokens := l.filled (s.bucket l sampleHost t) t - 1, last := t }, true) := if_pos hfilled
  rw [Machine.emits, Machine.next, step_quiet hquiet]
  refine ⟨congrArg (fun taken : Bucket × Bool => [taken.2]) htaken, ?_, rfl⟩
  rw [serve_buckets_self, htaken]

/-- A request is refused where its bucket has none. -/
theorem refuse_token (hquiet : clean = true → t - s.lastCleanup ≤ cleanupSec)
    (hfilled : l.filled (s.bucket l sampleHost t) t < 1) :
    (limiter clean l []).emits s (sample t) = [false] := by
  rw [Machine.emits, step_quiet hquiet]
  exact congrArg (fun taken : Bucket × Bool => [taken.2]) (if_neg (not_le.mpr hfilled))

/-- Requests at the same time take the tokens that there are. -/
theorem drain {tokens : ℚ} (n : ℕ)
    (hquiet : clean = true → t - s.lastCleanup ≤ cleanupSec)
    (hbucket : s.bucket l sampleHost t = { tokens, last := t }) (hburst : tokens ≤ l.burst)
    (hn : (n : ℚ) + 1 ≤ tokens) :
    (limiter clean l []).trace s (List.replicate (n + 1) (sample t)) =
        List.replicate (n + 1) true ∧
      ((limiter clean l []).run s (List.replicate (n + 1) (sample t))).buckets sampleHost =
        some { tokens := tokens - (n + 1), last := t } ∧
      ((limiter clean l []).run s (List.replicate (n + 1) (sample t))).lastCleanup =
        s.lastCleanup := by
  have hfilled : l.filled (s.bucket l sampleHost t) t = tokens := by
    rw [hbucket, Limits.filled]
    dsimp only
    rw [sub_self, zero_mul, add_zero, min_eq_right hburst]
  induction n generalizing s tokens with
  | zero =>
      obtain ⟨hemits, hnext, hlast⟩ := @take_token l clean s t hquiet (by
        rw [hfilled]
        exact le_of_add_le_of_nonneg_right hn (Nat.cast_nonneg 0))
      rw [hfilled] at hnext
      refine ⟨?_, ?_, hlast⟩
      · rw [List.replicate_succ, Machine.trace_cons, hemits]
        rfl
      · simp only [Nat.cast_zero, zero_add]
        exact hnext
  | succ n ih =>
      rw [Nat.cast_succ] at hn ⊢
      have hpos : (0 : ℚ) ≤ n := Nat.cast_nonneg n
      obtain ⟨hemits, hnext, hlast⟩ := @take_token l clean s t hquiet (by
        rw [hfilled]
        linarith)
      rw [hfilled] at hnext
      have hbucket' : ((limiter clean l []).next s (sample t)).bucket l sampleHost t =
          { tokens := tokens - 1, last := t } := by
        rw [State.bucket, hnext, Option.getD_some]
      have hfilled' : l.filled (((limiter clean l []).next s (sample t)).bucket l sampleHost t) t =
          tokens - 1 := by
        rw [hbucket', Limits.filled]
        dsimp only
        rw [sub_self, zero_mul, add_zero, min_eq_right (by linarith)]
      obtain ⟨htrace, hrun, hclean⟩ := @ih ((limiter clean l []).next s (sample t)) (tokens - 1)
        (by rw [hlast]; exact hquiet) hbucket' (by linarith) (by linarith) hfilled'
      refine ⟨?_, ?_, ?_⟩
      · rw [List.replicate_succ, Machine.trace_cons, hemits, htrace]
        rfl
      · rw [List.replicate_succ, Machine.run_cons, hrun, sub_sub, add_comm 1]
      · rw [List.replicate_succ, Machine.run_cons, hclean, hlast]

/-- A cleanup that is due throws the idle bucket away, and the request finds a full one. -/
theorem trace_evict {b : Bucket} (hdue : t - s.lastCleanup > cleanupSec)
    (hbucket : s.buckets sampleHost = some b) (hidle : t - b.last > cleanupSec)
    (requests : List Request) :
    ∃ s' : State, s'.bucket l sampleHost t = { tokens := l.burst, last := t } ∧
      s'.lastCleanup = t ∧
        (limiter true l []).trace s (sample t :: requests) =
          (limiter true l []).trace s' (sample t :: requests) := by
  have hcleanup : s.cleanup t =
      { buckets := fun k => (s.buckets k).filter fun b => decide (¬ t - b.last > cleanupSec)
        lastCleanup := t } := if_pos hdue
  have hlast : (s.cleanup t).lastCleanup = t := by rw [hcleanup]
  have hagain : (s.cleanup t).cleanup t = s.cleanup t := by
    refine if_neg (not_lt.mpr ?_)
    rw [hlast, sub_self, cleanupSec]
    norm_num
  refine ⟨s.cleanup t, ?_, hlast, ?_⟩
  · rw [State.bucket, hcleanup]
    dsimp only
    rw [hbucket, Option.filter_some, if_neg (by rw [decide_eq_true_eq]; exact not_not.mpr hidle)]
    rfl
  · have hstep : (limiter true l []).step s (sample t) =
        (limiter true l []).step (s.cleanup t) (sample t) := by
      show (((s.cleanup t).serve l _ t t).1, [((s.cleanup t).serve l _ t t).2]) =
        ((((s.cleanup t).cleanup t).serve l _ t t).1, [(((s.cleanup t).cleanup t).serve l _ t t).2])
      rw [hagain]
    rw [Machine.trace_cons, Machine.trace_cons, Machine.emits, Machine.emits, Machine.next,
      Machine.next, hstep]

/-- Without the cleanup a client gets no more than its tokens and what comes in meanwhile. -/
theorem count_le (hrate : 0 ≤ l.rate) (hburst : 0 ≤ l.burst) {times : List ℚ} {b : Bucket}
    {upto : ℚ} (hbucket : s.buckets sampleHost = some b) (htokens : 0 ≤ b.tokens)
    (hchain : (b.last :: times).IsChain (· ≤ ·)) (hupto : ∀ t ∈ b.last :: times, t ≤ upto) :
    (((limiter false l []).trace s (times.map sample)).count true : ℚ) ≤
      b.tokens + (upto - b.last) * l.rate := by
  induction times generalizing s b with
  | nil =>
      have hlast := hupto b.last List.mem_cons_self
      have helapsed := mul_nonneg (sub_nonneg.mpr hlast) hrate
      show ((0 : ℕ) : ℚ) ≤ _
      rw [Nat.cast_zero]
      linarith
  | cons t times ih =>
      obtain ⟨hle, hchain⟩ := List.isChain_cons_cons.mp hchain
      have hupto' := (List.forall_mem_cons.mp hupto).2
      have hbucket' : s.bucket l sampleHost t = b := by rw [State.bucket, hbucket, Option.getD_some]
      have hnext : ((limiter false l []).next s (sample t)).buckets sampleHost =
          some (l.consume b t).1 := by
        rw [← hbucket']
        exact serve_buckets_self s l sampleHost t t
      have hemits : (limiter false l []).emits s (sample t) = [(l.consume b t).2] := by
        rw [← hbucket']
        rfl
      have hfilled : l.filled b t ≤ b.tokens + (t - b.last) * l.rate := min_le_right _ _
      have hnonneg := filled_nonneg hburst hrate htokens hle
      have hrest := @ih ((limiter false l []).next s (sample t)) (l.consume b t).1 hnext
        (consume_nonneg hnonneg) (by rw [consume_last]; exact hchain)
        (by rw [consume_last]; exact hupto')
      rw [consume_last] at hrest
      have hspent : (([(l.consume b t).2].count true : ℕ) : ℚ) + (l.consume b t).1.tokens =
          l.filled b t := by
        rw [Limits.consume]
        split_ifs
        · show ((1 : ℕ) : ℚ) + _ = _
          rw [Nat.cast_one]
          ring
        · show ((0 : ℕ) : ℚ) + _ = _
          rw [Nat.cast_zero, zero_add]
      rw [List.map_cons, Machine.trace_cons, hemits, List.count_append, Nat.cast_add]
      have hsplit : (upto - b.last) * l.rate = (t - b.last) * l.rate + (upto - t) * l.rate := by
        ring
      linarith

/-- A full bucket, at the time it is new, has its tokens taken one by one. -/
theorem drain_initial (clean : Bool) {n : ℕ} (hn : (n : ℚ) + 1 ≤ l.burst) :
    (limiter clean l []).trace (initial 0) (List.replicate (n + 1) (sample 0)) =
        List.replicate (n + 1) true ∧
      ((limiter clean l []).run (initial 0) (List.replicate (n + 1) (sample 0))).buckets
          sampleHost = some { tokens := l.burst - (n + 1), last := 0 } ∧
      ((limiter clean l []).run (initial 0) (List.replicate (n + 1) (sample 0))).lastCleanup =
        0 := by
  refine drain n (fun _ => ?_) rfl le_rfl hn
  show (0 : ℚ) - 0 ≤ cleanupSec
  norm_num [cleanupSec]

end Sample

/-- Requests of the client at non-decreasing times are in order. -/
theorem readInOrder_map_sample {times : List ℚ} {t : ℚ} (h : (t :: times).IsChain (· ≤ ·)) :
    ReadInOrder t (times.map sample) := by
  induction times generalizing t with
  | nil => trivial
  | cons t' times ih =>
      obtain ⟨hle, hchain⟩ := List.isChain_cons_cons.mp h
      exact ⟨hle, le_rfl, le_rfl, ih hchain⟩

theorem map_replicate_sample (n : ℕ) (t : ℚ) :
    (List.replicate n t).map sample = List.replicate n (sample t) :=
  List.map_replicate

theorem isChain_replicate_append {n : ℕ} {t : ℚ} {times : List ℚ}
    (h : (t :: times).IsChain (· ≤ ·)) :
    (t :: (List.replicate n t ++ times)).IsChain (· ≤ ·) := by
  induction n with
  | zero => exact h
  | succ n ih => exact List.isChain_cons_cons.mpr ⟨le_rfl, ih⟩

/-- Where a client that has used up its tokens has to wait for more than a minute for the next one,
it gets it after the cleanup. -/
theorem observable_of_wait {l : Limits} {n : ℕ} (hn : (n : ℚ) + 1 ≤ l.burst) {e : ℚ}
    (he : cleanupSec < e) (hwait : l.burst - (n + 1) + e * l.rate < 1) : ¬ Unobservable l := by
  intro h
  have hpos : (0 : ℚ) < e := lt_trans (by norm_num [cleanupSec]) he
  have hburst : 1 ≤ l.burst := le_of_add_le_of_nonneg_right hn (Nat.cast_nonneg n)
  have hsame := h [] 0 ((List.replicate (n + 1) 0 ++ [e]).map sample)
    (readInOrder_map_sample (isChain_replicate_append
      (List.isChain_cons_cons.mpr ⟨hpos.le, List.isChain_singleton e⟩)))
  rw [List.map_append, map_replicate_sample, Machine.trace_append, Machine.trace_append] at hsame
  obtain ⟨htrace, hbucket, hlast⟩ := drain_initial true hn
  obtain ⟨htrace', hbucket', -⟩ := drain_initial false hn
  rw [htrace, htrace'] at hsame
  have hanswer := List.append_cancel_left hsame
  obtain ⟨s, hfull, hclean, hevict⟩ := @trace_evict l
    ((limiter true l []).run (initial 0) (List.replicate (n + 1) (sample 0))) e _
    (by rw [hlast, sub_zero]; exact he) hbucket (by rw [sub_zero]; exact he) []
  have hadmitted := (@take_token l true s e
    (fun _ => by rw [hclean, sub_self]; norm_num [cleanupSec])
    (by rw [hfull, Limits.filled, sub_self, zero_mul, add_zero, min_self]; exact hburst)).1
  have hrefused := @refuse_token l false
    ((limiter false l []).run (initial 0) (List.replicate (n + 1) (sample 0))) e nofun
    (by
      rw [State.bucket, hbucket', Option.getD_some, Limits.filled, sub_zero]
      exact (min_le_right _ _).trans_lt hwait)
  rw [List.map_singleton, hevict, Machine.trace_cons, hadmitted, Machine.trace_cons, hrefused]
    at hanswer
  cases hanswer

/-- Where the next token comes within a minute, a client that waits for it has an empty bucket. -/
theorem take_after_wait {l : Limits} (clean : Bool) {n : ℕ} (hn : (n : ℚ) + 1 ≤ l.burst) {w : ℚ}
    (hwait : w ≤ cleanupSec) (htoken : l.burst - (n + 1) + w * l.rate = 1) :
    (limiter clean l []).trace (initial 0)
        (List.replicate (n + 1) (sample 0) ++ [sample w]) = List.replicate (n + 2) true ∧
      ((limiter clean l []).run (initial 0)
          (List.replicate (n + 1) (sample 0) ++ [sample w])).buckets sampleHost =
        some { tokens := 0, last := w } ∧
      ((limiter clean l []).run (initial 0)
          (List.replicate (n + 1) (sample 0) ++ [sample w])).lastCleanup = 0 := by
  have hburst : 1 ≤ l.burst := le_of_add_le_of_nonneg_right hn (Nat.cast_nonneg n)
  obtain ⟨htrace, hbucket, hlast⟩ := drain_initial clean hn
  have hfilled : l.filled (((limiter clean l []).run (initial 0)
      (List.replicate (n + 1) (sample 0))).bucket l sampleHost w) w = 1 := by
    rw [State.bucket, hbucket, Option.getD_some, Limits.filled, sub_zero, htoken]
    exact min_eq_right hburst
  obtain ⟨hemits, hnext, hclean⟩ := @take_token l clean _ w
    (fun _ => by rw [hlast, sub_zero]; exact hwait) hfilled.ge
  rw [hfilled, sub_self] at hnext
  rw [Machine.trace_append, Machine.run_append, htrace, Machine.trace_cons, Machine.trace_nil,
    hemits, Machine.run_cons, Machine.run_nil]
  exact ⟨List.replicate_succ'.symm, hnext, hclean.trans hlast⟩

/-- Where the next token comes within a minute, a client waits for it, is idle for more than a
minute, and finds a full bucket that it could not have by then. -/
theorem observable_of_token {l : Limits} {n : ℕ} (hn : (n : ℚ) + 1 ≤ l.burst) {w e : ℚ}
    (hrate : 0 ≤ l.rate) (hw : 0 ≤ w) (hwait : w ≤ cleanupSec)
    (htoken : l.burst - (n + 1) + w * l.rate = 1) (he : cleanupSec < e)
    (hidle : e * l.rate < l.burst) : ¬ Unobservable l := by
  intro h
  have hpos : (0 : ℚ) < e := lt_trans (by norm_num [cleanupSec]) he
  have hburst : 1 ≤ l.burst := le_of_add_le_of_nonneg_right hn (Nat.cast_nonneg n)
  have hlater : ((w + e) :: (List.replicate (n + 1) (w + e) ++ [w + e + w])).IsChain (· ≤ ·) :=
    isChain_replicate_append
      (List.isChain_cons_cons.mpr ⟨le_add_of_nonneg_right hw, List.isChain_singleton _⟩)
  have hchain : (w :: (List.replicate (n + 1) (w + e) ++ [w + e + w])).IsChain (· ≤ ·) :=
    List.isChain_cons_cons.mpr
      ⟨le_add_of_nonneg_right hpos.le, (List.isChain_cons_cons.mp hlater).2⟩
  have hsame := h [] 0
    ((List.replicate (n + 1) 0 ++ w :: (List.replicate (n + 1) (w + e) ++ [w + e + w])).map sample)
    (readInOrder_map_sample (isChain_replicate_append
      (List.isChain_cons_cons.mpr ⟨hw, hchain⟩)))
  rw [List.map_append, List.map_cons, map_replicate_sample, List.append_cons,
    (limiter true l []).trace_append, (limiter false l []).trace_append] at hsame
  obtain ⟨htrace, hbucket, hlast⟩ := take_after_wait true hn hwait htoken
  obtain ⟨htrace', hbucket', -⟩ := take_after_wait false hn hwait htoken
  rw [htrace, htrace'] at hsame
  have hanswer := List.append_cancel_left hsame
  -- With the cleanup, all of the last requests are admitted.
  obtain ⟨s, hfull, hclean, hevict⟩ := @trace_evict l _ (w + e) _
    (by rw [hlast]; linarith) hbucket (by dsimp only; linarith)
    (List.replicate n (sample (w + e)) ++ [sample (w + e + w)])
  obtain ⟨hdrained, hleft, hquiet⟩ := @drain l true s (w + e) l.burst n
    (fun _ => by rw [hclean, sub_self]; norm_num [cleanupSec]) hfull le_rfl hn
  have hadmitted := (@take_token l true _ (w + e + w)
    (fun _ => by rw [hquiet, hclean]; linarith)
    (by
      rw [State.bucket, hleft, Option.getD_some, Limits.filled, add_sub_cancel_left, htoken]
      exact le_min hburst le_rfl)).1
  have hall : (limiter true l []).trace s
      (List.replicate (n + 1) (sample (w + e)) ++ [sample (w + e + w)]) =
        List.replicate (n + 2) true := by
    rw [Machine.trace_append, hdrained, Machine.trace_cons, Machine.trace_nil, hadmitted]
    exact List.replicate_succ'.symm
  -- Without it, there are not that many tokens.
  have hupto : ∀ t ∈ w :: (List.replicate (n + 1) (w + e) ++ [w + e + w]), t ≤ w + e + w := by
    intro t ht
    rcases List.mem_cons.mp ht with rfl | ht
    · linarith
    · rcases List.mem_append.mp ht with ht | ht
      · rw [List.eq_of_mem_replicate ht]
        exact le_add_of_nonneg_right hw
      · exact (List.mem_singleton.mp ht).le
  have hcount := @count_le l _ hrate (zero_le_one.trans hburst)
    (List.replicate (n + 1) (w + e) ++ [w + e + w]) _ (w + e + w) hbucket' le_rfl hchain hupto
  rw [List.map_append, map_replicate_sample] at hanswer hcount
  have htail := hanswer.symm.trans (hevict.trans hall)
  rw [htail, List.count_replicate_self] at hcount
  push_cast at hcount
  have hsplit : (w + e + w - w) * l.rate = w * l.rate + e * l.rate := by ring
  linarith

/-- The cleanup goes unnoticed exactly where no request is ever admitted, or a minute fills any
bucket. -/
theorem unobservable_iff (l : Limits) :
    Unobservable l ↔ l.burst < 1 ∨ l.burst ≤ cleanupSec * l.rate := by
  refine ⟨fun h => ?_, fun h => ?_⟩
  · by_contra! hno
    obtain ⟨hburst, hslow⟩ := hno
    obtain ⟨n, hn⟩ := Nat.exists_eq_add_of_le' (Nat.one_le_floor_iff l.burst |>.mpr hburst)
    have hle : (n : ℚ) + 1 ≤ l.burst := by
      rw [← Nat.cast_succ, Nat.succ_eq_add_one, ← hn]
      exact Nat.floor_le (zero_le_one.trans hburst)
    have hlt : l.burst < n + 1 + 1 := by
      have hfloor := Nat.lt_floor_add_one l.burst
      rwa [hn, Nat.cast_succ] at hfloor
    rcases le_or_gt l.rate 0 with hrate | hrate
    · refine observable_of_wait hle (e := 61) (by norm_num [cleanupSec]) ?_ h
      linarith
    · have hwait : l.burst - (n + 1) + (1 - (l.burst - (n + 1))) / l.rate * l.rate = 1 := by
        rw [div_mul_cancel₀ _ hrate.ne']
        ring
      rcases le_or_gt ((1 - (l.burst - (n + 1))) / l.rate) cleanupSec with hw | hw
      · obtain ⟨e, he, hidle⟩ := exists_between ((lt_div_iff₀ hrate).mpr hslow)
        exact observable_of_token hle hrate.le (div_nonneg (by linarith) hrate.le) hw hwait he
          ((lt_div_iff₀ hrate).mp hidle) h
      · obtain ⟨e, he, hsoon⟩ := exists_between hw
        refine observable_of_wait hle he ?_ h
        have := mul_lt_mul_of_pos_right hsoon hrate
        linarith
  · intro trustedProxies start requests horder
    rcases lt_or_ge l.burst 1 with hlow | hone
    · rw [trace_of_burst_lt hlow, trace_of_burst_lt hlow]
    · have hfull := h.resolve_left (not_lt.mpr hone)
      have hrate : 0 ≤ l.rate := by
        rw [cleanupSec] at hfull
        linarith
      exact trace_of_follows (zero_le_one.trans hone) hrate hfull trustedProxies
        (follows_initial start) horder

/-! ## The two limiters -/

/-- The cleanup of a limiter goes unnoticed exactly where its burst is below one token, or no more
than what comes in within a minute: for the limiter of administration, its requests per minute. -/
theorem limiters_unobservable_iff (s : Settings) :
    (Unobservable s.limits ↔ s.rateLimitBurst < 1 ∨ s.rateLimitBurst ≤ 60 * s.rateLimitRps) ∧
      (Unobservable s.adminLimits ↔
        s.adminRateLimitBurst < 1 ∨ s.adminRateLimitBurst ≤ s.adminRateLimitRpm) := by
  refine ⟨unobservable_iff s.limits, ?_⟩
  have hrpm : cleanupSec * s.adminLimits.rate = s.adminRateLimitRpm := by
    rw [cleanupSec, Settings.adminLimits]
    field_simp
  rw [← hrpm]
  exact unobservable_iff s.adminLimits

/-- At five requests per minute with a burst of ten, a client that has used up its tokens gets six
more after a minute, instead of five. -/
theorem adminBurst_observable :
    ¬ ∀ s : Settings, Unobservable s.limits ∧ Unobservable s.adminLimits := by
  intro h
  have hsame := (h { rateLimitRps := 30, rateLimitBurst := 60, adminRateLimitRpm := 5,
                     adminRateLimitBurst := 10 }).2 ["127.0.0.1", "::1"] 0
    ((List.replicate 10 0 ++ List.replicate 6 61).map sample)
    (readInOrder_map_sample (by decide +kernel))
  revert hsame
  decide +kernel

end CameraStack.Admin.RateLimit
