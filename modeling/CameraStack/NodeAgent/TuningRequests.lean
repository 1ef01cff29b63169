/-
# Concurrent updates of a tuning file

Every request of the agent has a thread of its own.  An update reads the file, merges, writes the
whole into a temporary file whose name all requests share, and puts this in the place of the file;
behind it the stream is restarted, and the request answered.  There is no lock, so a run is any
interleaving of these steps.  Files are told apart from their names: a request goes on writing into
the file that it opened, wherever that is by then.
-/

import CameraStack.Lib.Machine
import CameraStack.NodeAgent.TuningFile

namespace CameraStack.NodeAgent

open CameraStack.Lib

/-! ## Requests -/

/-- How far a request has come.  `source` is the file that it read, `temp` the one it writes. -/
inductive TuningPhase where
  | accepted
  | merged (source : ℕ) (env : TuningEnv)
  | writing (source temp : ℕ) (text : Text) (offset : ℕ)
  | replaced
  | answered (status : ℕ)
  | raised
  deriving DecidableEq

/-- A request, with its update. -/
structure TuningRequest where
  updates : List (String × String)
  phase : TuningPhase

/-- The files by number with their texts, those that bear the two names, and the requests so far. -/
structure TuningHost where
  texts : ℕ → Text
  created : ℕ
  path : ℕ
  temp : Option ℕ
  requests : List TuningRequest := []

/-- A write at an offset, which leaves a gap of zeros behind the end of a shorter text. -/
def overlay (text : Text) (offset : ℕ) (chunk : Text) : Text :=
  if chunk = [] then text
  else
    text.take offset ++ List.replicate (offset - text.length) '\x00' ++ chunk ++
      text.drop (offset + chunk.length)

namespace TuningHost

/-- The text of the file. -/
def text (s : TuningHost) : Text := s.texts s.path

/-- A request comes to its next phase. -/
def setPhase (i : ℕ) (phase : TuningPhase) (s : TuningHost) : TuningHost :=
  { s with requests := s.requests.modify i fun request => { request with phase } }

/-- A request comes in; `none` is a body that does not parse. -/
def post {F : Type} [FloatNumber F] (body : Option (JsonValue F)) (s : TuningHost) : TuningHost :=
  let request : TuningRequest :=
    match body with
    | none => { updates := [], phase := .answered 400 }
    | some body =>
        match validateTuning body with
        | .error _ => { updates := [], phase := .raised }
        | .ok (.error _) => { updates := [], phase := .answered 400 }
        | .ok (.ok updates) => { updates, phase := .accepted }
  { s with requests := s.requests ++ [request] }

/-- The file is read and merged with the update. -/
def read (i : ℕ) (updates : List (String × String)) (s : TuningHost) : TuningHost :=
  s.setPhase i (.merged s.path ((readTuningEnv s.text).insertMany updates))

/-- `open(tmp, "w")`: the temporary file is truncated, or created. -/
def openTemp (i source : ℕ) (env : TuningEnv) (s : TuningHost) : TuningHost :=
  match s.temp with
  | some temp =>
      { s with texts := Function.update s.texts temp [] }.setPhase i
        (.writing source temp (renderTuning env) 0)
  | none =>
      { s with
        texts := Function.update s.texts s.created []
        created := s.created + 1
        temp := some s.created }.setPhase i
        (.writing source s.created (renderTuning env) 0)

/-- The next characters of the text are written. -/
def write (i source temp : ℕ) (text : Text) (offset n : ℕ) (s : TuningHost) : TuningHost :=
  { s with
    texts := Function.update s.texts temp
      (overlay (s.texts temp) offset ((text.drop offset).take n)) }.setPhase i
    (.writing source temp text (min (offset + n) text.length))

/-- `os.replace(tmp, path)`, which finds no temporary file where another request took it. -/
def replace (i : ℕ) (s : TuningHost) : TuningHost :=
  match s.temp with
  | some temp => { s with path := temp, temp := none }.setPhase i .replaced
  | none => s.setPhase i (.answered 500)

end TuningHost

/-- The steps of the requests; a restart succeeds or not. -/
inductive TuningEvent (F : Type) where
  | post (body : Option (JsonValue F))
  | read (i : ℕ)
  | openTemp (i : ℕ)
  | write (i n : ℕ)
  | replace (i : ℕ)
  | restart (i : ℕ) (ok : Bool)

/-- The agent, step after step.  A request takes the step of its phase only; it replaces the file
once its whole text is written. -/
def tuningMachine (F : Type) [FloatNumber F] : Machine TuningHost (TuningEvent F) Empty where
  step s
    | .post body => (s.post body, [])
    | .read i =>
        match s.requests[i]? with
        | some { updates, phase := .accepted } => (s.read i updates, [])
        | _ => (s, [])
    | .openTemp i =>
        match s.requests[i]? with
        | some { phase := .merged source env, .. } => (s.openTemp i source env, [])
        | _ => (s, [])
    | .write i n =>
        match s.requests[i]? with
        | some { phase := .writing source temp text offset, .. } =>
            (s.write i source temp text offset n, [])
        | _ => (s, [])
    | .replace i =>
        match s.requests[i]? with
        | some { phase := .writing _ _ text offset, .. } =>
            (if offset = text.length then s.replace i else s, [])
        | _ => (s, [])
    | .restart i ok =>
        match s.requests[i]? with
        | some { phase := .replaced, .. } =>
            (s.setPhase i (.answered (if ok then 200 else 500)), [])
        | _ => (s, [])

/-- The agent before any request: a file, and a temporary one where a crash left it. -/
def tuningStart (text : Text) (temp : Option Text) : TuningHost where
  texts n := if n = 0 then text else temp.getD []
  created := 2
  path := 0
  temp := temp.map fun _ => 1

/-! ## Orderly steps -/

/-- The request writes the temporary file. -/
def TuningPhase.Writing (phase : TuningPhase) : Prop :=
  ∃ source temp text offset, phase = .writing source temp text offset

instance (phase : TuningPhase) : Decidable phase.Writing :=
  match phase with
  | .writing source temp text offset => isTrue ⟨source, temp, text, offset, rfl⟩
  | .accepted => isFalse (by simp [TuningPhase.Writing])
  | .merged _ _ => isFalse (by simp [TuningPhase.Writing])
  | .replaced => isFalse (by simp [TuningPhase.Writing])
  | .answered _ => isFalse (by simp [TuningPhase.Writing])
  | .raised => isFalse (by simp [TuningPhase.Writing])

/-- The file that a request read whose text is written. -/
def TuningPhase.completed : TuningPhase → Option ℕ
  | .writing source _ text offset => if offset = text.length then some source else none
  | _ => none

/-- The request has replaced the file, and is not answered with an error. -/
def TuningPhase.Published (phase : TuningPhase) : Prop :=
  phase = .replaced ∨ phase = .answered 200

/-- A step is orderly: no other request writes the temporary file when one opens it, the file that
is replaced is still the one that was merged, and a stream restarts. -/
def TuningHost.Orderly {F : Type} (s : TuningHost) : TuningEvent F → Prop
  | .openTemp _ => ∀ request ∈ s.requests, ¬ request.phase.Writing
  | .replace i => ∀ request ∈ s.requests[i]?, ∀ source ∈ request.phase.completed, source = s.path
  | .restart i ok => ∀ request ∈ s.requests[i]?, request.phase = .replaced → ok = true
  | _ => True

instance {F : Type} (s : TuningHost) (e : TuningEvent F) : Decidable (s.Orderly e) :=
  match e with
  | .openTemp _ => inferInstanceAs (Decidable (∀ request ∈ s.requests, _))
  | .replace i => inferInstanceAs (Decidable (∀ request ∈ s.requests[i]?, _))
  | .restart i _ => inferInstanceAs (Decidable (∀ request ∈ s.requests[i]?, _))
  | .post _ | .read _ | .write _ _ => inferInstanceAs (Decidable True)

/-! ## What orderly steps keep -/

/-- A request that replaced the file set the key to the value. -/
def TuningHost.Updated (s : TuningHost) (key value : String) : Prop :=
  ∃ request ∈ s.requests, request.phase.Published ∧ (key, value) ∈ request.updates

/-- The file is whole, and has for each key a value of a request that replaced it, or where there is
none, the first value. -/
structure TuningHost.Kept (initial : Text) (s : TuningHost) : Prop where
  whole : s.text = initial ∨ ∃ env, s.text = renderTuning env
  values : ∀ key : String,
    (∃ value, s.Updated key value ∧ (readTuningEnv s.text)[key]? = some value) ∨
      (∀ value, ¬ s.Updated key value) ∧
        (readTuningEnv s.text)[key]? = (readTuningEnv initial)[key]?

/-- What a request has read and merged: while its file is in place, it is what the file gives. -/
structure TuningHost.Merged (s : TuningHost) (updates : List (String × String)) (source : ℕ)
    (env : TuningEnv) : Prop where
  old : source < s.created
  moved : s.temp ≠ some source
  current : source = s.path → env = (readTuningEnv s.text).insertMany updates

/-- What a request has written: the temporary file is its own, and has the text up to there. -/
structure TuningHost.Written (s : TuningHost) (request : TuningRequest) (source temp : ℕ)
    (text : Text) (offset : ℕ) : Prop where
  own : s.temp = some temp
  far : s.texts temp = text.take offset
  within : offset ≤ text.length
  rendered : ∃ env, text = renderTuning env ∧ s.Merged request.updates source env

/-- What holds between orderly steps. -/
structure TuningHost.Held (initial : Text) (s : TuningHost) : Prop where
  path : s.path < s.created
  temp : ∀ temp, s.temp = some temp → temp < s.created ∧ temp ≠ s.path
  clean : CleanTuning (readTuningEnv s.text)
  updates : ∀ request ∈ s.requests, ∀ update ∈ request.updates,
    CleanTuningKey update.1.toList ∧ CleanTuningValue update.2.toList
  merged : ∀ request ∈ s.requests, ∀ source env, request.phase = .merged source env →
    s.Merged request.updates source env
  written : ∀ request ∈ s.requests, ∀ source temp text offset,
    request.phase = .writing source temp text offset → s.Written request source temp text offset
  single : ∀ (i j : ℕ) request other, s.requests[i]? = some request → s.requests[j]? = some other →
    request.phase.Writing → other.phase.Writing → i = j
  kept : s.Kept initial

namespace TuningHost

variable {s : TuningHost} {i : ℕ} {request : TuningRequest} {phase : TuningPhase}

theorem getElem?_setPhase (h : s.requests[i]? = some request) {j : ℕ} {other : TuningRequest} :
    (s.setPhase i phase).requests[j]? = some other ↔
      i = j ∧ { request with phase } = other ∨ i ≠ j ∧ s.requests[j]? = some other := by
  rw [setPhase, List.getElem?_modify]
  split_ifs with hij
  · rw [← hij, h]
    simp
  · simp [hij]

/-- The requests behind a step are the one that took it and the others. -/
theorem mem_setPhase (h : s.requests[i]? = some request) {other : TuningRequest}
    (ho : other ∈ (s.setPhase i phase).requests) :
    other = { request with phase } ∨ ∃ j, i ≠ j ∧ s.requests[j]? = some other := by
  obtain ⟨j, hj⟩ := List.mem_iff_getElem?.mp ho
  rcases (getElem?_setPhase h).mp hj with ⟨-, heq⟩ | ⟨hij, hold⟩
  · exact Or.inl heq.symm
  · exact Or.inr ⟨j, hij, hold⟩

/-- A step that publishes nothing, and takes nothing back, leaves the updates as they are. -/
theorem updated_setPhase (h : s.requests[i]? = some request)
    (hsame : request.phase.Published ↔ phase.Published) (key value : String) :
    (s.setPhase i phase).Updated key value ↔ s.Updated key value := by
  constructor
  · rintro ⟨other, ho, hpublished, hvalue⟩
    rcases mem_setPhase h ho with rfl | ⟨j, -, hold⟩
    · exact ⟨request, List.mem_of_getElem? h, hsame.mpr hpublished, hvalue⟩
    · exact ⟨other, List.mem_of_getElem? hold, hpublished, hvalue⟩
  · rintro ⟨other, ho, hpublished, hvalue⟩
    obtain ⟨j, hj⟩ := List.mem_iff_getElem?.mp ho
    by_cases hij : i = j
    · rw [← hij, h] at hj
      obtain rfl := Option.some_inj.mp hj
      exact ⟨{ request with phase }, List.mem_of_getElem? ((getElem?_setPhase h).mpr
        (Or.inl ⟨rfl, rfl⟩)), hsame.mp hpublished, hvalue⟩
    · exact ⟨other, List.mem_of_getElem? ((getElem?_setPhase h).mpr (Or.inr ⟨hij, hj⟩)),
        hpublished, hvalue⟩

theorem Kept.congr {initial : Text} {s' : TuningHost} (h : s.Kept initial)
    (htext : s'.text = s.text)
    (hupdated : ∀ key value, s'.Updated key value ↔ s.Updated key value) :
    s'.Kept initial where
  whole := htext ▸ h.whole
  values key := by
    simp only [htext, hupdated]
    exact h.values key

theorem Merged.congr {updates : List (String × String)} {source : ℕ} {env : TuningEnv}
    {s' : TuningHost} (h : s.Merged updates source env) (hcreated : s.created ≤ s'.created)
    (hmoved : s'.temp ≠ some source) (hpath : s'.path = s.path) (htext : s'.text = s.text) :
    s'.Merged updates source env where
  old := h.old.trans_le hcreated
  moved := hmoved
  current := by
    rw [hpath, htext]
    exact h.current

variable {initial : Text}

/-- A step that leaves the files as they are. -/
theorem Held.setPhase (h : s.Held initial) (hr : s.requests[i]? = some request)
    (hsame : request.phase.Published ↔ phase.Published) (hwriting : ¬ phase.Writing)
    (hmerged : ∀ source env, phase = .merged source env → s.Merged request.updates source env) :
    (s.setPhase i phase).Held initial where
  path := h.path
  temp := h.temp
  clean := h.clean
  updates other ho := by
    rcases mem_setPhase hr ho with rfl | ⟨j, -, hold⟩
    · exact h.updates request (List.mem_of_getElem? hr)
    · exact h.updates other (List.mem_of_getElem? hold)
  merged other ho source env hphase := by
    have hbefore : s.Merged other.updates source env := by
      rcases mem_setPhase hr ho with rfl | ⟨j, -, hold⟩
      · exact hmerged source env hphase
      · exact h.merged other (List.mem_of_getElem? hold) source env hphase
    exact hbefore.congr le_rfl hbefore.moved rfl rfl
  written other ho source temp text offset hphase := by
    rcases mem_setPhase hr ho with rfl | ⟨j, -, hold⟩
    · exact absurd ⟨source, temp, text, offset, hphase⟩ hwriting
    · obtain ⟨hown, hfar, hwithin, env, htext, hbefore⟩ :=
        h.written other (List.mem_of_getElem? hold) source temp text offset hphase
      exact ⟨hown, hfar, hwithin, env, htext, hbefore.congr le_rfl hbefore.moved rfl rfl⟩
  single j k one other hj hk hone hother := by
    rcases (getElem?_setPhase hr).mp hj with ⟨-, rfl⟩ | ⟨-, hj⟩
    · exact absurd hone hwriting
    · rcases (getElem?_setPhase hr).mp hk with ⟨-, rfl⟩ | ⟨-, hk⟩
      · exact absurd hother hwriting
      · exact h.single j k one other hj hk hone hother
  kept := h.kept.congr rfl (updated_setPhase hr hsame)

/-- A key of a merged file has a value of the update, or where there is none, the one before. -/
theorem getElem?_insertMany (updates : List (String × String)) (env : TuningEnv) (key : String) :
    (∃ value, (key, value) ∈ updates ∧ (env.insertMany updates)[key]? = some value) ∨
      (∀ value, (key, value) ∉ updates) ∧ (env.insertMany updates)[key]? = env[key]? := by
  induction updates generalizing env with
  | nil =>
      right
      rw [Std.ExtTreeMap.insertMany_nil]
      exact ⟨fun value => List.not_mem_nil, rfl⟩
  | cons update updates ih =>
      obtain ⟨k, v⟩ := update
      rw [Std.ExtTreeMap.insertMany_cons]
      rcases ih (env.insert k v) with ⟨value, hvalue, hget⟩ | ⟨hnone, hget⟩
      · exact Or.inl ⟨value, List.mem_cons_of_mem _ hvalue, hget⟩
      · rw [hget, Dict.getElem?_insert]
        split_ifs with hkey
        · exact Or.inl ⟨v, hkey ▸ List.mem_cons_self, rfl⟩
        · refine Or.inr ⟨fun value hvalue => ?_, rfl⟩
          rcases List.mem_cons.mp hvalue with heq | hvalue
          · exact hkey (Prod.mk.inj heq).1.symm
          · exact hnone value hvalue

/-- A step of the one request that writes the temporary file. -/
theorem Held.writes (h : s.Held initial) (hr : s.requests[i]? = some request)
    (hnot : ¬ request.phase.Published)
    (hothers : ∀ j other, i ≠ j → s.requests[j]? = some other → ¬ other.phase.Writing)
    {s' : TuningHost} {source temp : ℕ} {text content : Text} {env : TuningEnv} {offset : ℕ}
    (htext : text = renderTuning env) (hmerged : s.Merged request.updates source env)
    (hrequests : s'.requests = s.requests)
    (htexts : s'.texts = Function.update s.texts temp content)
    (hcontent : content = text.take offset) (hwithin : offset ≤ text.length)
    (hcreated : s.created ≤ s'.created) (hpath : s'.path = s.path) (htemp : s'.temp = some temp)
    (hlt : temp < s'.created) (hne : temp ≠ s.path)
    (hfresh : ∀ source < s.created, s.temp ≠ some source → temp ≠ source) :
    (s'.setPhase i (.writing source temp text offset)).Held initial := by
  have hr' : s'.requests[i]? = some request := hrequests ▸ hr
  have hsame : s'.text = s.text := by
    rw [TuningHost.text, htexts, hpath]
    exact Function.update_of_ne hne.symm content s.texts
  have hcongr : ∀ {updates file merged}, s.Merged updates file merged →
      (s'.setPhase i (.writing source temp text offset)).Merged updates file merged := by
    intro updates file merged hbefore
    refine hbefore.congr hcreated ?_ hpath hsame
    show s'.temp ≠ some file
    rw [htemp, ne_eq, Option.some_inj]
    exact hfresh file hbefore.old hbefore.moved
  constructor
  · show s'.path < s'.created
    rw [hpath]
    exact h.path.trans_le hcreated
  · intro other hother
    obtain rfl : temp = other := Option.some_inj.mp (htemp.symm.trans hother)
    exact ⟨hlt, hpath ▸ hne⟩
  · show CleanTuning (readTuningEnv s'.text)
    rw [hsame]
    exact h.clean
  · intro other ho
    rcases mem_setPhase hr' ho with rfl | ⟨j, -, hold⟩
    · exact h.updates request (List.mem_of_getElem? hr)
    · exact h.updates other (List.mem_of_getElem? (hrequests ▸ hold))
  · intro other ho source' env' hphase
    rcases mem_setPhase hr' ho with rfl | ⟨j, -, hold⟩
    · cases hphase
    · exact hcongr (h.merged other (List.mem_of_getElem? (hrequests ▸ hold)) source' env' hphase)
  · intro other ho source' temp' text' offset' hphase
    rcases mem_setPhase hr' ho with rfl | ⟨j, hij, hold⟩
    · cases hphase
      refine ⟨htemp, ?_, hwithin, env, htext, hcongr hmerged⟩
      show s'.texts temp = text.take offset
      rw [htexts, Function.update_self, hcontent]
    · exact absurd ⟨source', temp', text', offset', hphase⟩
        (hothers j other hij (hrequests ▸ hold))
  · intro j k one other hj hk hone hother
    have hself : ∀ {j : ℕ} {one : TuningRequest},
        (s'.setPhase i (.writing source temp text offset)).requests[j]? = some one →
          one.phase.Writing → i = j := by
      intro j one hj hone
      rcases (getElem?_setPhase hr').mp hj with ⟨hij, -⟩ | ⟨hij, hj⟩
      · exact hij
      · exact absurd hone (hothers j one hij (hrequests ▸ hj))
    exact (hself hj hone).symm.trans (hself hk hother)
  · have hnotNow : ¬ (TuningPhase.writing source temp text offset).Published := by
      rintro (hphase | hphase)
      · cases hphase
      · cases hphase
    have hupdated : ∀ key value, s'.Updated key value ↔ s.Updated key value := by
      intro key value
      rw [Updated, Updated, hrequests]
    exact h.kept.congr hsame fun key value =>
      (updated_setPhase hr' (iff_of_false hnot hnotNow) key value).trans (hupdated key value)

/-- The file is replaced by what the file in place and the update give. -/
theorem Held.published (h : s.Held initial) (hr : s.requests[i]? = some request)
    {source temp : ℕ} {text : Text} (hphase : request.phase = .writing source temp text text.length)
    (hsource : source = s.path) :
    ({ s with path := temp, temp := none }.setPhase i .replaced).Held initial := by
  have hmem := List.mem_of_getElem? hr
  obtain ⟨hown, hfar, -, env, htext, hmerged⟩ :=
    h.written request hmem source temp text text.length hphase
  obtain ⟨hlt, hne⟩ := h.temp temp hown
  have hcurrent := hmerged.current hsource
  have hclean : CleanTuning env := by
    rw [hcurrent]
    exact h.clean.insertMany (h.updates request hmem)
  have hnew : ({ s with path := temp, temp := none } : TuningHost).text = renderTuning env := by
    rw [TuningHost.text]
    show s.texts temp = renderTuning env
    rw [hfar, List.take_length, htext]
  have hread : readTuningEnv ({ s with path := temp, temp := none } : TuningHost).text = env := by
    rw [hnew, readTuningEnv_renderTuning hclean]
  have hr' : ({ s with path := temp, temp := none } : TuningHost).requests[i]? = some request := hr
  have hothers : ∀ {j : ℕ} {other : TuningRequest}, i ≠ j → s.requests[j]? = some other →
      ¬ other.phase.Writing := by
    intro j other hij hj hwriting
    exact hij (h.single i j request other hr hj ⟨_, _, _, _, hphase⟩ hwriting)
  constructor
  · exact hlt
  · intro other hother
    cases hother
  · show CleanTuning (readTuningEnv ({ s with path := temp, temp := none } : TuningHost).text)
    rw [hread]
    exact hclean
  · intro other ho
    rcases mem_setPhase hr' ho with rfl | ⟨j, -, hold⟩
    · exact h.updates request hmem
    · exact h.updates other (List.mem_of_getElem? hold)
  · intro other ho source' env' hphase'
    rcases mem_setPhase hr' ho with rfl | ⟨j, -, hold⟩
    · cases hphase'
    · obtain ⟨hold', hmoved, -⟩ := h.merged other (List.mem_of_getElem? hold) source' env' hphase'
      refine ⟨hold', Option.some_ne_none source' ∘ Eq.symm, fun heq => ?_⟩
      rw [hown] at hmoved
      exact absurd (congrArg some heq.symm) hmoved
  · intro other ho source' temp' text' offset' hphase'
    rcases mem_setPhase hr' ho with rfl | ⟨j, hij, hold⟩
    · cases hphase'
    · exact absurd ⟨source', temp', text', offset', hphase'⟩ (hothers hij hold)
  · intro j k one other hj hk hone hother
    rcases (getElem?_setPhase hr').mp hj with ⟨-, rfl⟩ | ⟨hij, hj⟩
    · obtain ⟨_, _, _, _, hcase⟩ := hone
      cases hcase
    · exact absurd hone (hothers hij hj)
  · have hpublished : ∀ key value,
        ({ s with path := temp, temp := none }.setPhase i .replaced).Updated key value ↔
          (key, value) ∈ request.updates ∨ s.Updated key value := by
      intro key value
      constructor
      · rintro ⟨other, ho, hother, hvalue⟩
        rcases mem_setPhase hr' ho with rfl | ⟨j, -, hold⟩
        · exact Or.inl hvalue
        · exact Or.inr ⟨other, List.mem_of_getElem? hold, hother, hvalue⟩
      · rintro (hvalue | ⟨other, ho, hother, hvalue⟩)
        · exact ⟨{ request with phase := .replaced }, List.mem_of_getElem?
            ((getElem?_setPhase hr').mpr (Or.inl ⟨rfl, rfl⟩)), Or.inl rfl, hvalue⟩
        · obtain ⟨j, hj⟩ := List.mem_iff_getElem?.mp ho
          have hij : i ≠ j := by
            rintro rfl
            obtain rfl := Option.some_inj.mp (hr.symm.trans hj)
            rcases hother with hcase | hcase
            · exact absurd (hphase.symm.trans hcase) TuningPhase.noConfusion
            · exact absurd (hphase.symm.trans hcase) TuningPhase.noConfusion
          exact ⟨other, List.mem_of_getElem? ((getElem?_setPhase hr').mpr (Or.inr ⟨hij, hj⟩)),
            hother, hvalue⟩
    constructor
    · exact Or.inr ⟨env, hnew⟩
    · intro key
      show (∃ value, _ ∧
          (readTuningEnv ({ s with path := temp, temp := none } : TuningHost).text)[key]? = _) ∨
        _ ∧ (readTuningEnv ({ s with path := temp, temp := none } : TuningHost).text)[key]? = _
      simp only [hread, hpublished, not_or]
      rw [hcurrent]
      rcases getElem?_insertMany request.updates (readTuningEnv s.text) key with
        ⟨value, hvalue, hget⟩ | ⟨hnone, hget⟩
      · exact Or.inl ⟨value, Or.inl hvalue, hget⟩
      · rw [hget]
        rcases h.kept.values key with ⟨value, hupdated, hvalue⟩ | ⟨hnot, hvalue⟩
        · exact Or.inl ⟨value, Or.inr hupdated, hvalue⟩
        · exact Or.inr ⟨fun value => ⟨hnone value, hnot value⟩, hvalue⟩

section Steps

variable {F : Type} [FloatNumber F]

/-- What a request that comes in is like. -/
theorem post_eq (body : Option (JsonValue F)) (s : TuningHost) :
    ∃ request, s.post body = { s with requests := s.requests ++ [request] } ∧
      (∀ update ∈ request.updates,
        CleanTuningKey update.1.toList ∧ CleanTuningValue update.2.toList) ∧
      ¬ request.phase.Writing ∧ ¬ request.phase.Published ∧
      ∀ source env, request.phase ≠ .merged source env := by
  have hrefused : ∀ phase, (¬ phase.Writing ∧ ¬ phase.Published ∧
      ∀ source env, phase ≠ .merged source env) →
      ∃ request : TuningRequest,
        ({ s with requests := s.requests ++ [{ updates := [], phase }] } : TuningHost) =
          { s with requests := s.requests ++ [request] } ∧
        (∀ update ∈ request.updates,
          CleanTuningKey update.1.toList ∧ CleanTuningValue update.2.toList) ∧
        ¬ request.phase.Writing ∧ ¬ request.phase.Published ∧
        ∀ source env, request.phase ≠ .merged source env := by
    intro phase hphase
    exact ⟨{ updates := [], phase }, rfl, fun update hmem => absurd hmem List.not_mem_nil, hphase⟩
  rw [TuningHost.post.eq_def]
  cases body with
  | none => exact hrefused (.answered 400) (by simp [TuningPhase.Writing, TuningPhase.Published])
  | some body =>
      dsimp only
      cases hvalidate : validateTuning body with
      | error exception =>
          exact hrefused .raised (by simp [TuningPhase.Writing, TuningPhase.Published])
      | ok outcome =>
          cases outcome with
          | error message =>
              exact hrefused (.answered 400) (by simp [TuningPhase.Writing, TuningPhase.Published])
          | ok updates =>
              refine ⟨{ updates, phase := .accepted }, rfl,
                cleanTuning_of_validateTuning hvalidate, ?_⟩
              simp [TuningPhase.Writing, TuningPhase.Published]

theorem Held.post (h : s.Held initial) (body : Option (JsonValue F)) :
    (s.post body).Held initial := by
  obtain ⟨posted, heq, hclean, hwriting, hpublished, hmerged⟩ := post_eq body s
  rw [heq]
  have hmem : ∀ {other}, other ∈ s.requests ++ [posted] → other ∈ s.requests ∨ other = posted := by
    intro other ho
    exact (List.mem_append.mp ho).imp_right List.mem_singleton.mp
  constructor
  · exact h.path
  · exact h.temp
  · exact h.clean
  · intro other ho
    rcases hmem ho with ho | rfl
    · exact h.updates other ho
    · exact hclean
  · intro other ho source env hphase
    rcases hmem ho with ho | rfl
    · exact (h.merged other ho source env hphase).congr le_rfl
        (h.merged other ho source env hphase).moved rfl rfl
    · exact absurd hphase (hmerged source env)
  · intro other ho source temp text offset hphase
    rcases hmem ho with ho | rfl
    · obtain ⟨hown, hfar, hwithin, env, htext, hbefore⟩ :=
        h.written other ho source temp text offset hphase
      exact ⟨hown, hfar, hwithin, env, htext, hbefore.congr le_rfl hbefore.moved rfl rfl⟩
    · exact absurd ⟨source, temp, text, offset, hphase⟩ hwriting
  · have hold : ∀ {j : ℕ} {other : TuningRequest}, (s.requests ++ [posted])[j]? = some other →
        other.phase.Writing → s.requests[j]? = some other := by
      intro j other hj hother
      rw [List.getElem?_append] at hj
      split_ifs at hj with hlt
      · exact hj
      · obtain rfl : posted = other := List.mem_singleton.mp (List.mem_of_getElem? hj) ▸ rfl
        exact absurd hother hwriting
    intro j k one other hj hk hone hother
    exact h.single j k one other (hold hj hone) (hold hk hother) hone hother
  · refine h.kept.congr rfl fun key value => ?_
    constructor
    · rintro ⟨other, ho, hother, hvalue⟩
      rcases hmem ho with ho | rfl
      · exact ⟨other, ho, hother, hvalue⟩
      · exact absurd hother hpublished
    · rintro ⟨other, ho, hother, hvalue⟩
      exact ⟨other, List.mem_append_left _ ho, hother, hvalue⟩

theorem overlay_take (text : Text) {offset : ℕ} (hwithin : offset ≤ text.length) (n : ℕ) :
    overlay (text.take offset) offset ((text.drop offset).take n) =
      text.take (min (offset + n) text.length) := by
  have hlength : (text.take offset).length = offset := List.length_take_of_le hwithin
  rw [overlay, hlength, Nat.sub_self, List.replicate_zero, List.append_nil]
  split_ifs with hempty
  · rcases List.take_eq_nil_iff.mp hempty with hn | hdrop
    · rw [hn, Nat.add_zero, Nat.min_eq_left hwithin]
    · have hend : offset = text.length := hwithin.antisymm (List.drop_eq_nil_iff.mp hdrop)
      rw [hend, Nat.min_eq_right (Nat.le_add_right _ _)]
  · have hbehind : (text.take offset).drop (offset + ((text.drop offset).take n).length) = [] := by
      rw [List.drop_eq_nil_iff, hlength]
      exact Nat.le_add_right _ _
    rw [hbehind, List.append_nil, List.take_take, Nat.min_self, ← List.take_add]
    rcases Nat.le_total (offset + n) text.length with hle | hle
    · rw [Nat.min_eq_left hle]
    · rw [Nat.min_eq_right hle, List.take_of_length_le hle, List.take_length]

theorem Held.write (h : s.Held initial) {updates : List (String × String)}
    {source temp : ℕ} {text : Text} {offset : ℕ}
    (hr : s.requests[i]? = some { updates, phase := .writing source temp text offset }) (n : ℕ) :
    (s.write i source temp text offset n).Held initial := by
  obtain ⟨hown, hfar, hwithin, env, htext, hmerged⟩ :=
    h.written _ (List.mem_of_getElem? hr) source temp text offset rfl
  obtain ⟨hlt, hne⟩ := h.temp temp hown
  refine h.writes hr ?_ ?_ htext hmerged rfl rfl ?_ (Nat.min_le_right _ _) le_rfl rfl hown hlt
    hne ?_
  · simp [TuningPhase.Published]
  · intro j other hij hj hwriting
    exact hij (h.single i j _ other hr hj ⟨_, _, _, _, rfl⟩ hwriting)
  · rw [hfar]
    exact overlay_take text hwithin n
  · intro file _ hmoved heq
    exact hmoved (hown.trans (congrArg some heq))

theorem Held.opens (h : s.Held initial) {updates : List (String × String)} {source : ℕ}
    {env : TuningEnv} (hr : s.requests[i]? = some { updates, phase := .merged source env })
    (hnone : ∀ request ∈ s.requests, ¬ request.phase.Writing) :
    (s.openTemp i source env).Held initial := by
  have hmerged := h.merged _ (List.mem_of_getElem? hr) source env rfl
  have hpublished : ¬ (TuningPhase.merged source env).Published := by
    simp [TuningPhase.Published]
  have hothers : ∀ j other, i ≠ j → s.requests[j]? = some other → ¬ other.phase.Writing :=
    fun j other _ hj => hnone other (List.mem_of_getElem? hj)
  rw [TuningHost.openTemp]
  cases htemp : s.temp with
  | some temp =>
      obtain ⟨hlt, hne⟩ := h.temp temp htemp
      refine h.writes hr hpublished hothers rfl hmerged rfl rfl rfl (Nat.zero_le _) le_rfl rfl rfl
        hlt hne ?_
      intro file _ hmoved heq
      exact hmoved (htemp.trans (congrArg some heq))
  | none =>
      refine h.writes hr hpublished hothers rfl hmerged rfl rfl rfl (Nat.zero_le _)
        (Nat.le_succ _) rfl rfl (Nat.lt_succ_self _) h.path.ne' ?_
      intro file hold _ heq
      exact hold.ne heq.symm

/-- One orderly step keeps what holds. -/
theorem Held.next (h : s.Held initial) {e : TuningEvent F} (ho : s.Orderly e) :
    ((tuningMachine F).next s e).Held initial := by
  cases e with
  | post body => exact h.post body
  | read i =>
      simp only [tuningMachine, Machine.next]
      split
      · next updates hr =>
          refine h.setPhase hr ?_ ?_ ?_
          · simp [TuningPhase.Published]
          · simp [TuningPhase.Writing]
          · rintro source env ⟨⟩
            exact ⟨h.path, fun hsome => (h.temp _ hsome).2 rfl, fun _ => rfl⟩
      · exact h
  | openTemp i =>
      simp only [tuningMachine, Machine.next]
      split
      · next updates source env hr =>
          exact h.opens hr ho
      · exact h
  | write i n =>
      simp only [tuningMachine, Machine.next]
      split
      · next updates source temp text offset hr =>
          exact h.write hr n
      · exact h
  | replace i =>
      simp only [tuningMachine, Machine.next]
      split
      · next updates source temp text offset hr =>
          split_ifs with hdone
          · subst hdone
            have hown := (h.written _ (List.mem_of_getElem? hr) source temp text _ rfl).own
            rw [TuningHost.replace, hown]
            exact h.published hr rfl (ho _ hr source (if_pos rfl))
          · exact h
      · exact h
  | restart i ok =>
      simp only [tuningMachine, Machine.next]
      split
      · next updates hr =>
          have hok : ok = true := ho _ hr rfl
          rw [hok]
          refine h.setPhase hr ?_ ?_ ?_
          · simp [TuningPhase.Published]
          · simp [TuningPhase.Writing]
          · rintro source env ⟨⟩
      · exact h

end Steps

theorem Held.start {text : Text} (hquotes : NoQuotes text) (temp : Option Text) :
    (tuningStart text temp).Held text := by
  have hnone : ∀ {request : TuningRequest}, request ∉ (tuningStart text temp).requests :=
    List.not_mem_nil
  constructor
  · exact Nat.zero_lt_two
  · intro file hfile
    obtain ⟨left, -, rfl⟩ := Option.map_eq_some_iff.mp hfile
    exact ⟨Nat.one_lt_two, Nat.one_ne_zero⟩
  · exact cleanTuning_readTuningEnv hquotes
  · exact fun request hr => absurd hr hnone
  · exact fun request hr => absurd hr hnone
  · exact fun request hr => absurd hr hnone
  · exact fun i j request other hr => absurd (List.mem_of_getElem? hr) hnone
  · constructor
    · exact Or.inl rfl
    · intro key
      exact Or.inr ⟨fun value hvalue => hnone hvalue.choose_spec.1, rfl⟩

end TuningHost

/-! ## Updates are kept -/

/-- A request that is answered, or was ended by an exception. -/
def TuningPhase.finished : TuningPhase → Bool
  | .raised | .answered _ => true
  | _ => false

/-- Every request is finished. -/
def TuningHost.Finished (s : TuningHost) : Prop :=
  ∀ request ∈ s.requests, request.phase.finished = true

instance (s : TuningHost) : Decidable s.Finished := inferInstanceAs (Decidable (∀ _ ∈ _, _))

/-- A request that was answered with 200 updated the key. -/
def TuningHost.Confirmed (s : TuningHost) (key value : String) : Prop :=
  ∃ request ∈ s.requests, request.phase = .answered 200 ∧ (key, value) ∈ request.updates

instance (s : TuningHost) (key value : String) : Decidable (s.Confirmed key value) :=
  inferInstanceAs (Decidable (∃ request ∈ s.requests, _))

/-- The file is a complete tuning file, in which every key that a confirmed request updated has the
value of one of these updates, and every other key its first value. -/
def TuningHost.UpdatesKept (initial : Text) (s : TuningHost) : Prop :=
  (s.text = initial ∨ ∃ env, s.text = renderTuning env) ∧
    ∀ key : String,
      ((∃ value, s.Confirmed key value) →
        ∃ value, s.Confirmed key value ∧ (readTuningEnv s.text)[key]? = some value) ∧
      ((∀ value, ¬ s.Confirmed key value) →
        (readTuningEnv s.text)[key]? = (readTuningEnv initial)[key]?)

theorem TuningHost.updated_iff_confirmed {s : TuningHost} (h : s.Finished) (key value : String) :
    s.Updated key value ↔ s.Confirmed key value := by
  constructor
  · rintro ⟨request, hr, hpublished | hpublished, hvalue⟩
    · have hfinished := h request hr
      rw [hpublished] at hfinished
      cases hfinished
    · exact ⟨request, hr, hpublished, hvalue⟩
  · rintro ⟨request, hr, hanswered, hvalue⟩
    exact ⟨request, hr, Or.inr hanswered, hvalue⟩

/-- In every run of orderly steps, from a file whose values have no quotes, the updates are kept
whenever all requests are finished. -/
theorem tuning_updates_kept {F : Type} [FloatNumber F] {text : Text} (hquotes : NoQuotes text)
    (temp : Option Text) {events : List (TuningEvent F)}
    (horderly : (tuningMachine F).Along TuningHost.Orderly (tuningStart text temp) events)
    (hfinished : ((tuningMachine F).run (tuningStart text temp) events).Finished) :
    ((tuningMachine F).run (tuningStart text temp) events).UpdatesKept text := by
  have hheld := (tuningMachine F).run_invariant (I := TuningHost.Held text)
    (fun s e h ho => h.next ho) horderly (TuningHost.Held.start hquotes temp)
  have hconfirmed := TuningHost.updated_iff_confirmed hfinished
  refine ⟨hheld.kept.whole, fun key => ⟨?_, ?_⟩⟩
  · rintro ⟨value, hvalue⟩
    rcases hheld.kept.values key with ⟨kept, hkept, hread⟩ | ⟨hnone, -⟩
    · exact ⟨kept, (hconfirmed key kept).mp hkept, hread⟩
    · exact absurd ((hconfirmed key value).mpr hvalue) (hnone value)
  · intro hnone
    rcases hheld.kept.values key with ⟨kept, hkept, -⟩ | ⟨-, hread⟩
    · exact absurd ((hconfirmed key kept).mp hkept) (hnone kept)
    · exact hread

/-- A file with two settings. -/
def twoSettings : Text := "WIDTH=\"640\"\nFPS=\"15\"\n".toList

theorem noQuotes_twoSettings : NoQuotes twoSettings := by
  have hread : readTuningEnv twoSettings =
      (∅ : TuningEnv).insertMany [("WIDTH", "640"), ("FPS", "15")] := by decide +kernel
  rw [NoQuotes, hread]
  exact Dict.each_empty.insertMany (by decide)

/-- An update of one field. -/
def updateField (k : Text) (v : ℤ) : TuningEvent WholeFloat := .post (some (.obj [(k, .int v)]))

/-- The steps of a request up to its answer. -/
def writesAndRestarts (i : ℕ) : List (TuningEvent WholeFloat) :=
  [.openTemp i, .write i 20, .write i 100, .replace i, .restart i true]

/-- One request behind the other: both updates are kept. -/
theorem tuning_updates_kept_in_turn :
    ((tuningMachine WholeFloat).run (tuningStart twoSettings none)
      (updateField "width".toList 800 :: .read 0 :: writesAndRestarts 0 ++
        updateField "fps".toList 30 :: .read 1 :: writesAndRestarts 1)).UpdatesKept twoSettings :=
  tuning_updates_kept noQuotes_twoSettings none (by decide +kernel) (by decide +kernel)

/-- Two requests that both read the file before the first of them replaces it. -/
def overlapping : List (TuningEvent WholeFloat) :=
  updateField "width".toList 800 :: updateField "fps".toList 30 :: .read 0 :: .read 1 ::
    writesAndRestarts 0 ++ writesAndRestarts 1

/-- The update of the first is lost, although it was answered with 200. -/
theorem tuning_update_lost :
    ((tuningMachine WholeFloat).run (tuningStart twoSettings none) overlapping).Finished ∧
      ¬ ((tuningMachine WholeFloat).run (tuningStart twoSettings none) overlapping).UpdatesKept
        twoSettings := by
  constructor
  · decide +kernel
  · intro hkept
    obtain ⟨value, hvalue, hread⟩ := (hkept.2 "WIDTH").1 ⟨"800", by decide +kernel⟩
    have hold : (readTuningEnv ((tuningMachine WholeFloat).run (tuningStart twoSettings none)
        overlapping).text)["WIDTH"]? = some "640" := by decide +kernel
    obtain rfl := Option.some_inj.mp (hread.symm.trans hold)
    exact absurd hvalue (by decide +kernel)

end CameraStack.NodeAgent
