/-
# The nodes' tokens

A node's token lives in a file of its own, `node_secrets.json`; rows written before that
file existed may still carry one inline.  Reading a node prefers the file, registering a
node again prefers the row.  The file is changed by reading it, changing one entry and
writing the whole of it back.

A read of the file that fails with an I/O error counts as an empty file.  What that costs
depends on whether a write follows: the module carries the answer of every read and of
every write in the event, and says which of them leave every token alone.
-/

import CameraStack.Lib.Action
import CameraStack.Topology.StateFile

namespace CameraStack.Topology

open CameraStack.Lib

/-! ## The two files -/

/-- The files of the topology, with the tokens that rows of the old combined state carry
inline. -/
structure NodeFiles where
  topology : TopologyState := {}
  legacy : Dict String := ∅

/-- What a read of `node_secrets.json` meets: the file, an I/O error that is taken for an
empty file, or an error that is raised. -/
inductive ReadAnswer
  | read | unreadable | raises
  deriving DecidableEq

/-- The answers to the accesses of one operation: the read that looks a token up, the read
under the lock of the secret file, and the writes of the two files. -/
structure SecretAnswers where
  lookup : ReadAnswer := .read
  update : ReadAnswer := .read
  secretsWritten : Bool := true
  topologyWritten : Bool := true

/-- What an operation raises. -/
inductive TokenError
  | store (e : StoreError)
  | readRaised
  | writeRaised
  deriving DecidableEq

/-- Operations on the two files. -/
abbrev TokenAction := Action SecretAnswers NodeFiles TokenError

/-- A text that counts as true. -/
def truthy (text : Option String) : Option String := text.filter (· ≠ "")

/-- `_read_secrets`. -/
def readSecrets (site : SecretAnswers → ReadAnswer) : TokenAction (Dict String) :=
  fun answers files =>
    match site answers with
    | .read => (.ok files.topology.secrets, files)
    | .unreadable => (.ok ∅, files)
    | .raises => (.error .readRaised, files)

/-- `_write_secrets`. -/
def writeSecrets (data : Dict String) : TokenAction Unit :=
  fun answers files =>
    if answers.secretsWritten then
      (.ok (), { files with topology := { files.topology with secrets := data } })
    else (.error .writeRaised, files)

/-- The write of the topology's file when the lock is left. -/
def writeTopology (nodes : Dict NodeRow) (bindings : Dict StreamBinding) (legacy : Dict String) :
    TokenAction Unit :=
  fun answers files =>
    if answers.topologyWritten then
      (.ok (), { topology := { files.topology with nodes := nodes, bindings := bindings }
                 legacy := legacy })
    else (.error .writeRaised, files)

/-- `_set_node_secret`. -/
def setNodeSecret (nodeId token : String) : TokenAction Unit := do
  let data ← readSecrets SecretAnswers.update
  writeSecrets (data.insert nodeId token)

/-- `_remove_node_secret`. -/
def removeNodeSecret (nodeId : String) : TokenAction Unit := do
  let data ← readSecrets SecretAnswers.update
  if nodeId ∈ data then writeSecrets (data.erase nodeId) else pure ()

/-- `_with_token`: the file first, then the row. -/
def withToken (nodeId : String) (row : NodeRow) : TokenAction NodeEntry := do
  let files ← Action.get
  let data ← readSecrets SecretAnswers.lookup
  pure { NodeEntry.fromRow nodeId row with
    agentToken := truthy data[nodeId]? <|> files.legacy[nodeId]? }

namespace NodeFiles

/-- `get_node`. -/
def getNode (nodeId : String) : TokenAction (Option NodeEntry) :=
  if nodeId = localNodeId then pure (some localNode)
  else do
    let files ← Action.get
    match files.topology.nodes[nodeId]? with
    | none => pure none
    | some row => some <$> withToken nodeId row

/-- The token of `upsert_node`: the row first, then the file, then a fresh one. -/
def chooseToken (nodeId mintedToken : String) : TokenAction String := do
  let files ← Action.get
  match truthy (files.topology.nodes[nodeId]?.bind fun _ => files.legacy[nodeId]?) with
  | some token => pure token
  | none => do
      let data ← readSecrets SecretAnswers.lookup
      pure ((truthy data[nodeId]?).getD mintedToken)

/-- `upsert_node`: the secret is written before the row. -/
def upsertNode (nodeId host role reachability : String) (serial displayName : Option String)
    (mintedToken : String) : TokenAction NodeEntry := do
  let files ← Action.get
  match files.topology.upsertNode nodeId host role reachability serial displayName mintedToken with
  | .error e => Action.halt (.store e)
  | .ok (entry, t) => do
      let token ← chooseToken nodeId mintedToken
      setNodeSecret nodeId token
      writeTopology t.nodes t.bindings (files.legacy.erase nodeId)
      pure { entry with agentToken := some token }

/-- `add_node_by_host`. -/
def addNodeByHost (lan : LanConfig) (host role : String) (displayName : Option String)
    (mintedId mintedToken : String) : TokenAction NodeEntry := do
  let files ← Action.get
  let t := files.topology
  match t.addNodeByHost lan host role displayName mintedId mintedToken with
  | .error e => Action.halt (.store e)
  | .ok (entry, t') =>
      match t.nodes.toList.find? fun known => known.2.host = pyStrip host with
      | some (nodeId, row) => do
          let found ← withToken nodeId row
          writeTopology t.nodes t.bindings files.legacy
          pure found
      | none => do
          setNodeSecret mintedId mintedToken
          writeTopology t'.nodes t'.bindings (files.legacy.erase mintedId)
          pure entry

/-- `set_agent_token`. -/
def setAgentToken (nodeId token : String) : TokenAction NodeEntry := do
  let files ← Action.get
  let t := files.topology
  match t.setAgentToken nodeId token with
  | .error e => Action.halt (.store e)
  | .ok (entry, _) => do
      setNodeSecret nodeId token
      writeTopology t.nodes t.bindings files.legacy
      pure entry

/-- `remove_node`: the token goes after the lock of the topology is left. -/
def removeNode (nodeId : String) : TokenAction (Bool × List String) := do
  let files ← Action.get
  match files.topology.removeNode nodeId with
  | .error e => Action.halt (.store e)
  | .ok (result, t) => do
      writeTopology t.nodes t.bindings (files.legacy.erase nodeId)
      removeNodeSecret nodeId
      pure result

/-- Every other operation of the store: rows and bindings, no token. -/
def mutate (lan : LanConfig) (alloc : Allocator) (op : StoreOp) : TokenAction Unit := do
  let files ← Action.get
  match op.body lan alloc files.topology with
  | .error e => Action.halt (.store e)
  | .ok t => writeTopology t.nodes t.bindings files.legacy

/-- One operation of the store. -/
def run (lan : LanConfig) (alloc : Allocator) (op : StoreOp) : TokenAction Unit :=
  match op with
  | .upsertNode nodeId host role reachability serial displayName token =>
      (fun _ => ()) <$> upsertNode nodeId host role reachability serial displayName token
  | .addNodeByHost host role displayName mintedId token =>
      (fun _ => ()) <$> addNodeByHost lan host role displayName mintedId token
  | .setAgentToken nodeId token => (fun _ => ()) <$> setAgentToken nodeId token
  | .removeNode nodeId => (fun _ => ()) <$> removeNode nodeId
  | .allocate .. | .ensureColor .. | .setDesired .. | .release .. | .migrateColorKey .. => pure ()
  | .setReachability .. | .setSerial .. | .setProvisionState .. | .touchChecked ..
  | .setMaintenance .. | .setHostKey .. | .upsertBinding .. | .removeBinding ..
  | .migrateRemoteBindingIds | .setStatus .. | .setFdirEnabled .. | .setDesiredUp .. =>
      mutate lan alloc op

/-- The token `get_node` returns when it can read the file. -/
def token (files : NodeFiles) (nodeId : String) : Option String :=
  match (getNode nodeId {} files).1 with
  | .ok (some entry) => truthy entry.agentToken
  | _ => none

/-- The token of a registered node. -/
def held (files : NodeFiles) (nodeId : String) : Option String :=
  truthy files.topology.secrets[nodeId]? <|> truthy files.legacy[nodeId]?

end NodeFiles

theorem truthy_eq_some {text : Option String} {value : String} (h : truthy text = some value) :
    text = some value ∧ truthy (some value) = some value := by
  obtain ⟨htext, hne⟩ := Option.filter_eq_some_iff.mp h
  exact ⟨htext, Option.filter_eq_some_iff.mpr ⟨rfl, hne⟩⟩

theorem truthy_truthy_orElse (first second : Option String) :
    truthy (truthy first <|> second) = (truthy first <|> truthy second) := by
  cases hfirst : truthy first with
  | none => rfl
  | some text => exact (truthy_eq_some hfirst).2

namespace NodeFiles

/-- A node has a token when it is registered and one of the two places holds it. -/
theorem token_eq_some {files : NodeFiles} {nodeId τ : String} :
    files.token nodeId = some τ ↔
      nodeId ≠ localNodeId ∧ nodeId ∈ files.topology.nodes ∧ files.held nodeId = some τ := by
  rw [token, getNode]
  by_cases hlocal : nodeId = localNodeId
  · have hnone : truthy localNode.agentToken = none := rfl
    simp [hlocal, hnone]
  · rw [if_neg hlocal]
    cases hrow : files.topology.nodes[nodeId]? with
    | none =>
        have habsent : nodeId ∉ files.topology.nodes := by
          simp [Std.ExtTreeMap.mem_iff_isSome_getElem?, hrow]
        simp [Action.run_bind, habsent]
    | some row =>
        have hentry : (some <$> withToken nodeId row) {} files =
            (.ok (some { NodeEntry.fromRow nodeId row with
              agentToken := truthy files.topology.secrets[nodeId]? <|> files.legacy[nodeId]? }),
              files) := by
          rw [Action.run_map]
          exact rfl
        simp only [Action.run_bind, Action.run_get, hrow, hentry, truthy_truthy_orElse]
        simp [hlocal, Dict.mem_of_getElem? hrow, held]

/-! ## What an operation does to the files -/

/-- What a read of the secret file makes of it. -/
def known (files : NodeFiles) : ReadAnswer → Dict String
  | .read => files.topology.secrets
  | .unreadable | .raises => ∅

/-- The secret of one node was written over what the read under the lock returned, and no
other row was touched. -/
structure SecretWritten (answers : SecretAnswers) (nodeId token : String)
    (files files' : NodeFiles) : Prop where
  written : answers.secretsWritten = true
  readable : answers.update ≠ .raises
  secrets : files'.topology.secrets = (files.known answers.update).insert nodeId token
  nodes : ∀ other, other ∈ files.topology.nodes → other ∈ files'.topology.nodes
  legacy : ∀ other, other ≠ nodeId → files'.legacy[other]? = files.legacy[other]?

variable {answers : SecretAnswers} {files : NodeFiles}

/-- A read that does not raise returns what is known. -/
theorem readSecrets_eq (answers : SecretAnswers) (files : NodeFiles)
    (site : SecretAnswers → ReadAnswer) :
    readSecrets site answers files =
      if site answers = .raises then (.error .readRaised, files)
      else (.ok (files.known (site answers)), files) := by
  unfold readSecrets known
  cases site answers with
  | read => rfl
  | unreadable => rfl
  | raises => rfl

/-- Setting a secret: an error and nothing written, or the secret written. -/
theorem setNodeSecret_cases (answers : SecretAnswers) (files : NodeFiles)
    (nodeId token : String) :
    (∃ e, setNodeSecret nodeId token answers files = (.error e, files)) ∨
      ∃ files', setNodeSecret nodeId token answers files = (.ok (), files') ∧
        SecretWritten answers nodeId token files files' := by
  have hread := readSecrets_eq answers files SecretAnswers.update
  by_cases hreadable : answers.update = .raises
  · rw [if_pos hreadable] at hread
    exact .inl ⟨_, Action.run_bind_error hread⟩
  · rw [if_neg hreadable] at hread
    have hset : setNodeSecret nodeId token answers files =
        writeSecrets ((files.known answers.update).insert nodeId token) answers files :=
      Action.run_bind_ok hread
    rw [hset]
    rw [writeSecrets]
    split_ifs with hwritten
    · exact .inr ⟨_, rfl, hwritten, hreadable, rfl, fun _ h => h, fun _ _ => rfl⟩
    · exact .inl ⟨_, rfl⟩

/-- A row write after a secret write still leaves the secret of one node written. -/
theorem SecretWritten.writeTopology {nodeId token : String} {files' : NodeFiles}
    (h : SecretWritten answers nodeId token files files') {nodes : Dict NodeRow}
    {bindings : Dict StreamBinding} {legacy : Dict String}
    (hnodes : ∀ other, other ∈ files.topology.nodes → other ∈ nodes)
    (hother : ∀ other, other ≠ nodeId → legacy[other]? = files.legacy[other]?) :
    SecretWritten answers nodeId token files
      (Topology.writeTopology nodes bindings legacy answers files').2 := by
  rw [Topology.writeTopology]
  split_ifs with hwritten
  · exact ⟨h.written, h.readable, h.secrets, hnodes, hother⟩
  · exact h

/-- The token of a node that is registered again: the row's, or what the read returned,
or the fresh one. -/
theorem chooseToken_cases (answers : SecretAnswers) (files : NodeFiles)
    (nodeId mintedToken : String) :
    (∃ e, chooseToken nodeId mintedToken answers files = (.error e, files)) ∨
      ∃ token, chooseToken nodeId mintedToken answers files = (.ok token, files) ∧
        (nodeId ∈ files.topology.nodes →
          truthy files.legacy[nodeId]? = some token ∨
            truthy files.legacy[nodeId]? = none ∧ answers.lookup ≠ .raises ∧
              token = (truthy (files.known answers.lookup)[nodeId]?).getD mintedToken) := by
  have hread := readSecrets_eq answers files SecretAnswers.lookup
  cases hinline : truthy (files.topology.nodes[nodeId]?.bind fun _ => files.legacy[nodeId]?) with
  | some token =>
      refine .inr ⟨token, ?_, ?_⟩
      · simp [chooseToken, Action.run_bind, hinline]
      · intro hmem
        obtain ⟨row, hrow⟩ := Option.isSome_iff_exists.mp
          (Std.ExtTreeMap.mem_iff_isSome_getElem?.mp hmem)
        rw [hrow] at hinline
        exact .inl hinline
  | none =>
      by_cases hreadable : answers.lookup = .raises
      · rw [if_pos hreadable] at hread
        refine .inl ⟨.readRaised, ?_⟩
        simp [chooseToken, Action.run_bind, hinline, hread]
      · rw [if_neg hreadable] at hread
        refine .inr ⟨(truthy (files.known answers.lookup)[nodeId]?).getD mintedToken, ?_, ?_⟩
        · simp [chooseToken, Action.run_bind, hinline, hread]
        · intro hmem
          obtain ⟨row, hrow⟩ := Option.isSome_iff_exists.mp
            (Std.ExtTreeMap.mem_iff_isSome_getElem?.mp hmem)
          rw [hrow] at hinline
          exact .inr ⟨hinline, hreadable, rfl⟩

theorem mem_insert_of_mem {nodes : Dict NodeRow} {other : String} (nodeId : String)
    (row : NodeRow) (h : other ∈ nodes) : other ∈ nodes.insert nodeId row :=
  Std.ExtTreeMap.mem_insert.mpr (.inr h)

theorem getElem?_erase_ne {legacy : Dict String} {nodeId other : String} (hne : other ≠ nodeId) :
    (legacy.erase nodeId)[other]? = legacy[other]? := by
  rw [Dict.getElem?_erase, if_neg hne.symm]

/-- Registering a node: nothing written, or its secret over what the read returned. -/
theorem upsertNode_cases (nodeId host role reachability : String)
    (serial displayName : Option String) (mintedToken : String) :
    ∀ files', (upsertNode nodeId host role reachability serial displayName mintedToken
      answers files).2 = files' → files' = files ∨
        ∃ token, SecretWritten answers nodeId token files files' ∧
          (nodeId ∈ files.topology.nodes →
            truthy files.legacy[nodeId]? = some token ∨
              truthy files.legacy[nodeId]? = none ∧ answers.lookup ≠ .raises ∧
                token = (truthy (files.known answers.lookup)[nodeId]?).getD mintedToken) := by
  intro files' hfiles'
  unfold upsertNode at hfiles'
  rw [Action.run_bind_ok Action.run_get] at hfiles'
  cases hup : files.topology.upsertNode nodeId host role reachability serial displayName
      mintedToken with
  | error e =>
      rw [hup] at hfiles'
      exact .inl hfiles'.symm
  | ok result =>
      obtain ⟨entry, t⟩ := result
      simp only [hup] at hfiles'
      obtain ⟨-, row, -, -, hnodes⟩ := TopologyState.upsertNode_ok hup
      rcases chooseToken_cases answers files nodeId mintedToken with
        ⟨e, hchoose⟩ | ⟨token, hchoose, hchosen⟩
      · rw [Action.run_bind_error hchoose] at hfiles'
        exact .inl hfiles'.symm
      · rw [Action.run_bind_ok hchoose] at hfiles'
        rcases setNodeSecret_cases answers files nodeId token with
          ⟨e, hset⟩ | ⟨mid, hset, hsecret⟩
        · rw [Action.run_bind_error hset] at hfiles'
          exact .inl hfiles'.symm
        · rw [Action.run_bind_ok hset] at hfiles'
          rw [Action.run_bind_pure] at hfiles'
          refine .inr ⟨token, hfiles' ▸ hsecret.writeTopology ?_ ?_, hchosen⟩
          · exact fun other h => hnodes ▸ mem_insert_of_mem nodeId row h
          · exact fun other hne => getElem?_erase_ne hne

/-- Looking a token up changes nothing. -/
theorem withToken_cases (answers : SecretAnswers) (files : NodeFiles) (nodeId : String)
    (row : NodeRow) :
    (∃ e, withToken nodeId row answers files = (.error e, files)) ∨
      ∃ entry, withToken nodeId row answers files = (.ok entry, files) := by
  have hread := readSecrets_eq answers files SecretAnswers.lookup
  rw [withToken]
  rw [Action.run_bind_ok Action.run_get, Action.run_bind_pure, hread]
  split_ifs with hreadable
  · exact .inl ⟨_, rfl⟩
  · exact .inr ⟨_, rfl⟩

/-- Writing back the rows that were loaded changes nothing. -/
theorem writeTopology_same :
    (writeTopology files.topology.nodes files.topology.bindings files.legacy answers files).2 =
      files := by
  rw [writeTopology]
  split_ifs with hwritten
  · rfl
  · rfl

/-- Adding a node: nothing changed, or the secret of the new node written. -/
theorem addNodeByHost_cases (lan : LanConfig) (host role : String) (displayName : Option String)
    (mintedId mintedToken : String) :
    ∀ files', (addNodeByHost lan host role displayName mintedId mintedToken answers files).2 =
      files' → files' = files ∨
        Dict.Each (fun _ row => row.host ≠ pyStrip host) files.topology.nodes ∧
          SecretWritten answers mintedId mintedToken files files' := by
  intro files' hfiles'
  unfold addNodeByHost at hfiles'
  rw [Action.run_bind_ok Action.run_get] at hfiles'
  cases hadd : files.topology.addNodeByHost lan host role displayName mintedId mintedToken with
  | error e =>
      simp only [hadd] at hfiles'
      exact .inl hfiles'.symm
  | ok result =>
      obtain ⟨entry, t⟩ := result
      simp only [hadd] at hfiles'
      cases hfind : files.topology.nodes.toList.find? fun known => known.2.host = pyStrip host with
      | some found =>
          simp only [hfind] at hfiles'
          refine .inl ?_
          rcases withToken_cases answers files found.1 found.2 with
            ⟨e, hfound⟩ | ⟨entry', hfound⟩
          · rw [Action.run_bind_error hfound] at hfiles'
            exact hfiles'.symm
          · rw [Action.run_bind_ok hfound, Action.run_bind_pure] at hfiles'
            exact hfiles'.symm.trans writeTopology_same
      | none =>
          simp only [hfind] at hfiles'
          have hnew : Dict.Each (fun _ row => row.host ≠ pyStrip host) files.topology.nodes := by
            intro key row hrow
            have hmem := Std.ExtTreeMap.mem_toList_iff_getElem?_eq_some.mpr hrow
            simpa using List.find?_eq_none.mp hfind _ hmem
          have hnodes : ∀ other, other ∈ files.topology.nodes → other ∈ t.nodes := by
            intro other h
            rcases TopologyState.addNodeByHost_ok hadd with rfl | ⟨-, -, row, -, -, ht⟩
            · exact h
            · rw [ht]
              exact mem_insert_of_mem mintedId row h
          rcases setNodeSecret_cases answers files mintedId mintedToken
            with ⟨e, hset⟩ | ⟨mid, hset, hsecret⟩
          · rw [Action.run_bind_error hset] at hfiles'
            exact .inl hfiles'.symm
          · rw [Action.run_bind_ok hset, Action.run_bind_pure] at hfiles'
            refine .inr ⟨hnew, hfiles' ▸ hsecret.writeTopology hnodes ?_⟩
            exact fun other hne => getElem?_erase_ne hne

/-- Setting a token: nothing changed, or its secret written, and then success hangs on the
rows being written back. -/
theorem setAgentToken_cases (nodeId token : String) :
    ∀ result files', setAgentToken nodeId token answers files = (result, files') →
      files' = files ∨
        nodeId ∈ files.topology.nodes ∧ SecretWritten answers nodeId token files files' ∧
          (answers.topologyWritten = true → ∃ entry, result = .ok entry) := by
  intro result files' hrun
  unfold setAgentToken at hrun
  rw [Action.run_bind_ok Action.run_get] at hrun
  cases hset : files.topology.setAgentToken nodeId token with
  | error e =>
      simp only [hset] at hrun
      cases hrun
      exact .inl rfl
  | ok pair =>
      obtain ⟨entry, t⟩ := pair
      simp only [hset] at hrun
      rcases setNodeSecret_cases answers files nodeId token with
        ⟨e, hsecret⟩ | ⟨mid, hsecret, hwritten⟩
      · rw [Action.run_bind_error hsecret] at hrun
        cases hrun
        exact .inl rfl
      · rw [Action.run_bind_ok hsecret, Action.run_bind_pure] at hrun
        have hmem : nodeId ∈ files.topology.nodes := by
          cases hrow : files.topology.nodes[nodeId]? with
          | none => simp [TopologyState.setAgentToken, hrow] at hset
          | some row => exact Dict.mem_of_getElem? hrow
        refine .inr ⟨hmem, ?_, ?_⟩
        · have hfiles' := congrArg Prod.snd hrun
          simp only at hfiles'
          rw [← hfiles']
          exact hwritten.writeTopology (fun _ h => h) (fun _ _ => rfl)
        · intro htopology
          have hresult := congrArg Prod.fst hrun
          simp only [writeTopology, htopology, if_true] at hresult
          exact ⟨entry, hresult.symm⟩

/-- The other nodes are registered as before, with the same tokens. -/
def OthersKept (nodeId : String) (files files' : NodeFiles) : Prop :=
  ∀ other, other ≠ nodeId → (other ∈ files.topology.nodes → other ∈ files'.topology.nodes) ∧
    files'.held other = files.held other

/-- Dropping a secret leaves the others, if the file can be read and written. -/
theorem removeNodeSecret_cases (nodeId : String) :
    ∀ result files', removeNodeSecret nodeId answers files = (result, files') →
      OthersKept nodeId files files' ∧
        (answers.update ≠ .raises →
          (nodeId ∈ files.known answers.update → answers.secretsWritten = true) →
          result = .ok ()) := by
  intro result files' hrun
  have hread := readSecrets_eq answers files SecretAnswers.update
  unfold removeNodeSecret at hrun
  by_cases hreadable : answers.update = .raises
  · rw [if_pos hreadable] at hread
    rw [Action.run_bind_error hread] at hrun
    cases hrun
    exact ⟨fun _ _ => ⟨id, rfl⟩, fun h => absurd hreadable h⟩
  · rw [if_neg hreadable] at hread
    rw [Action.run_bind_ok hread] at hrun
    by_cases hmem : nodeId ∈ files.known answers.update
    · rw [if_pos hmem] at hrun
      by_cases hwritten : answers.secretsWritten = true
      · simp only [writeSecrets, if_pos hwritten] at hrun
        cases hrun
        refine ⟨fun other hne => ⟨id, ?_⟩, fun _ _ => rfl⟩
        -- only the whole file can hold the entry that is dropped
        cases hupdate : answers.update with
        | raises => exact absurd hupdate hreadable
        | unreadable =>
            rw [hupdate] at hmem
            exact absurd hmem Std.ExtTreeMap.not_mem_empty
        | read => simp [held, known, Dict.getElem?_erase, hne.symm]
      · simp only [writeSecrets, if_neg hwritten] at hrun
        cases hrun
        exact ⟨fun _ _ => ⟨id, rfl⟩, fun _ h => absurd (h hmem) hwritten⟩
    · rw [if_neg hmem] at hrun
      cases hrun
      exact ⟨fun _ _ => ⟨id, rfl⟩, fun _ _ => rfl⟩

/-- Removing a node leaves the others; once its row is gone, success hangs on dropping its
secret. -/
theorem removeNode_cases (nodeId : String) :
    ∀ result files', removeNode nodeId answers files = (result, files') →
      OthersKept nodeId files files' ∧
        (files' = files ∨ answers.topologyWritten = true ∧
          (answers.update ≠ .raises →
            (nodeId ∈ files.known answers.update → answers.secretsWritten = true) →
            ∃ answer, result = .ok answer)) := by
  intro result files' hrun
  unfold removeNode at hrun
  rw [Action.run_bind_ok Action.run_get] at hrun
  cases hremove : files.topology.removeNode nodeId with
  | error e =>
      simp only [hremove] at hrun
      cases hrun
      exact ⟨fun _ _ => ⟨id, rfl⟩, .inl rfl⟩
  | ok pair =>
      obtain ⟨answer, t⟩ := pair
      simp only [hremove] at hrun
      have hnodes := TopologyState.nodes_removeNode hremove
      by_cases hwritten : answers.topologyWritten = true
      · obtain ⟨mid, hwrite, hmid, hsecrets, hlegacy⟩ : ∃ mid : NodeFiles,
            writeTopology t.nodes t.bindings (files.legacy.erase nodeId) answers files =
              (.ok (), mid) ∧ mid.topology.nodes = files.topology.nodes.erase nodeId ∧
              mid.topology.secrets = files.topology.secrets ∧
              mid.legacy = files.legacy.erase nodeId :=
          ⟨_, if_pos hwritten, hnodes, rfl, rfl⟩
        have hknown : mid.known answers.update = files.known answers.update := by
          unfold known
          rw [hsecrets]
        cases hremoved : removeNodeSecret nodeId answers mid with
        | mk removed files'' =>
            obtain ⟨hothers, hok⟩ := removeNodeSecret_cases nodeId _ _ hremoved
            rw [Action.run_bind_ok hwrite, Action.run_bind_pure, hremoved] at hrun
            cases hrun
            refine ⟨fun other hne => ?_, .inr ⟨hwritten, fun hreadable hwritten' => ?_⟩⟩
            · obtain ⟨hmem, hheld⟩ := hothers other hne
              constructor
              · intro h
                apply hmem
                rw [hmid]
                exact Std.ExtTreeMap.mem_erase.mpr ⟨by simp [hne.symm], h⟩
              · rw [hheld]
                simp [held, hsecrets, hlegacy, Dict.getElem?_erase, hne.symm]
            · rw [hok hreadable (hknown ▸ hwritten')]
              exact ⟨answer, rfl⟩
      · have hwrite : writeTopology t.nodes t.bindings (files.legacy.erase nodeId) answers files =
            (.error .writeRaised, files) := if_neg hwritten
        rw [Action.run_bind_error hwrite] at hrun
        cases hrun
        exact ⟨fun _ _ => ⟨id, rfl⟩, .inl rfl⟩

/-- Every operation but those of the tokens keeps the rows of the registered nodes. -/
theorem mem_of_body {lan : LanConfig} {alloc : Allocator} {op : StoreOp} {t t' : TopologyState}
    (hbody : op.body lan alloc t = .ok t') (hremove : ∀ nodeId, op ≠ .removeNode nodeId) :
    ∀ other, other ∈ t.nodes → other ∈ t'.nodes := by
  intro other hmem
  have hstep := Stores.nodeStep lan { alloc := alloc, topology := t } op
  rw [Stores.topology_apply, hbody] at hstep
  simp only [Except.toOption, Option.getD_some] at hstep
  generalize t'.nodes = nodes at hstep
  cases hstep with
  | keep => exact hmem
  | register row => exact mem_insert_of_mem _ row hmem
  | enroll row => exact mem_insert_of_mem _ row hmem
  | amend => exact mem_insert_of_mem _ _ hmem
  | remove => exact absurd rfl (hremove _)

/-- An operation on rows and bindings leaves every token. -/
theorem mutate_cases (lan : LanConfig) (alloc : Allocator) (op : StoreOp)
    (hremove : ∀ nodeId, op ≠ .removeNode nodeId) :
    ∀ files', (mutate lan alloc op answers files).2 = files' →
      ∀ other, (other ∈ files.topology.nodes → other ∈ files'.topology.nodes) ∧
        files'.held other = files.held other := by
  intro files' hfiles' other
  unfold mutate at hfiles'
  rw [Action.run_bind_ok Action.run_get] at hfiles'
  cases hbody : op.body lan alloc files.topology with
  | error e =>
      simp only [hbody] at hfiles'
      subst hfiles'
      exact ⟨id, rfl⟩
  | ok t =>
      simp only [hbody, writeTopology] at hfiles'
      split_ifs at hfiles' with hwritten
      · subst hfiles'
        exact ⟨mem_of_body hbody hremove other, rfl⟩
      · subst hfiles'
        exact ⟨id, rfl⟩

end NodeFiles

/-! ## Runs -/

/-- One operation, with the answers it gets and the allocator's slots it is checked
against. -/
structure TokenEvent where
  op : StoreOp
  answers : SecretAnswers := {}
  alloc : Allocator := {}

/-- The two files under any sequence of operations and any pattern of answers; a step emits
whether the operation returned. -/
def tokenMachine (lan : LanConfig) : Machine NodeFiles TokenEvent Bool where
  step files event :=
    let result := NodeFiles.run lan event.alloc event.op event.answers files
    (result.2, [result.1.isOk])

/-- The operation is a `set_agent_token` or a `remove_node` of this node, and it returned. -/
def Renewed (lan : LanConfig) (nodeId : String) (files : NodeFiles) (event : TokenEvent) : Prop :=
  ((∃ token, event.op = .setAgentToken nodeId token) ∨ event.op = .removeNode nodeId) ∧
    (NodeFiles.run lan event.alloc event.op event.answers files).1.isOk = true

namespace NodeFiles

/-- The node's token would change if the secret file were empty. -/
def FileOnly (files : NodeFiles) (nodeId : String) : Prop :=
  ∃ τ, files.token nodeId = some τ ∧ truthy files.legacy[nodeId]? ≠ some τ

/-- A write over an empty reading of the secret file takes no other token with it. -/
def OverwriteHarmless (files : NodeFiles) (nodeId : String) (answers : SecretAnswers) : Prop :=
  answers.update = .unreadable → answers.secretsWritten = true →
    ∀ other, other ≠ nodeId → ¬ files.FileOnly other

end NodeFiles

/-- What keeps an operation from disturbing a token. -/
def Undisturbed (files : NodeFiles) (event : TokenEvent) : Prop :=
  let answers := event.answers
  match event.op with
  | .upsertNode nodeId .. =>
      files.OverwriteHarmless nodeId answers ∧
        (answers.lookup = .unreadable → ¬ files.FileOnly nodeId) ∧
        -- a token of the row that differs from the one in the file would win
        ∀ inline τ, truthy files.legacy[nodeId]? = some inline → files.token nodeId = some τ →
          inline = τ
  | .addNodeByHost host _ _ mintedId _ =>
      Dict.Each (fun _ row => row.host ≠ pyStrip host) files.topology.nodes →
        files.OverwriteHarmless mintedId answers ∧ mintedId ∉ files.topology.nodes
  | .setAgentToken nodeId _ =>
      files.OverwriteHarmless nodeId answers ∧
        (nodeId ∈ files.topology.nodes → answers.update ≠ .raises →
          answers.secretsWritten = true → answers.topologyWritten = true)
  | .removeNode nodeId =>
      nodeId ∈ files.topology.nodes → answers.topologyWritten = true →
        answers.update ≠ .raises ∧
          (nodeId ∈ files.known answers.update → answers.secretsWritten = true)
  | _ => True

namespace NodeFiles

variable {answers : SecretAnswers} {files files' : NodeFiles} {nodeId other τ : String}

/-- A secret that is written harmlessly leaves the tokens of the other nodes. -/
theorem SecretWritten.token_other {token : String}
    (h : SecretWritten answers nodeId token files files')
    (hharmless : files.OverwriteHarmless nodeId answers) (hne : other ≠ nodeId)
    (htoken : files.token other = some τ) : files'.token other = some τ := by
  obtain ⟨hremote, hmem, hheld⟩ := token_eq_some.mp htoken
  refine token_eq_some.mpr ⟨hremote, h.nodes other hmem, ?_⟩
  unfold held at hheld ⊢
  rw [h.secrets, h.legacy other hne, Dict.getElem?_insert, if_neg hne.symm]
  cases hupdate : answers.update with
  | raises => exact absurd hupdate h.readable
  | read => exact hheld
  | unreadable =>
      have hrow : truthy files.legacy[other]? = some τ := by
        by_contra hfile
        exact hharmless hupdate h.written other hne ⟨τ, htoken, hfile⟩
      rw [hrow]
      rfl

/-- The node whose secret is written has the token that was written. -/
theorem SecretWritten.token_self {token : String}
    (h : SecretWritten answers nodeId token files files') (hremote : nodeId ≠ localNodeId)
    (hmem : nodeId ∈ files.topology.nodes) (htoken : truthy (some token) = some τ) :
    files'.token nodeId = some τ := by
  refine token_eq_some.mpr ⟨hremote, h.nodes nodeId hmem, ?_⟩
  unfold held
  rw [h.secrets, Dict.getElem?_insert, if_pos rfl, htoken]
  rfl

/-- Registering a node again keeps its token. -/
theorem token_upsertNode (host role reachability : String) (serial displayName : Option String)
    (mintedToken : String) (hharmless : files.OverwriteHarmless nodeId answers)
    (hlookup : answers.lookup = .unreadable → ¬ files.FileOnly nodeId)
    (hinline : ∀ inline τ, truthy files.legacy[nodeId]? = some inline →
      files.token nodeId = some τ → inline = τ)
    (htoken : files.token other = some τ) :
    ((upsertNode nodeId host role reachability serial displayName mintedToken answers
      files).2.token other) = some τ := by
  rcases upsertNode_cases nodeId host role reachability serial displayName mintedToken _ rfl with
    hsame | ⟨token, hwritten, hchosen⟩
  · rw [hsame]
    exact htoken
  · by_cases hne : other = nodeId
    · subst hne
      obtain ⟨hremote, hmem, hheld⟩ := token_eq_some.mp htoken
      apply hwritten.token_self hremote hmem
      rcases hchosen hmem with hrow | ⟨hrow, hraises, rfl⟩
      · obtain rfl : token = τ := hinline token τ hrow htoken
        exact (truthy_eq_some hrow).2
      · have hfile : truthy files.topology.secrets[other]? = some τ := by
          unfold held at hheld
          rw [hrow] at hheld
          simpa using hheld
        cases hread : answers.lookup with
        | raises => exact absurd hread hraises
        | read =>
            simp only [known, hfile, Option.getD_some]
            exact (truthy_eq_some hfile).2
        | unreadable =>
            refine absurd ⟨τ, htoken, ?_⟩ (hlookup hread)
            rw [hrow]
            nofun
    · exact hwritten.token_other hharmless hne htoken

end NodeFiles

/-- An undisturbed operation changes no token but that of a node whose token it sets or
whose row it removes, and then it returned. -/
theorem token_next {lan : LanConfig} {files : NodeFiles} {event : TokenEvent}
    (hundisturbed : Undisturbed files event) {nodeId τ : String}
    (htoken : files.token nodeId = some τ) (hrenewed : ¬ Renewed lan nodeId files event) :
    ((tokenMachine lan).next files event).token nodeId = some τ := by
  obtain ⟨op, answers, alloc⟩ := event
  obtain ⟨hremote, hmem, hheld⟩ := NodeFiles.token_eq_some.mp htoken
  show (NodeFiles.run lan alloc op answers files).2.token nodeId = some τ
  have hmutate : (∀ nodeId, op ≠ .removeNode nodeId) →
      (NodeFiles.mutate lan alloc op answers files).2.token nodeId = some τ := by
    intro hremove
    obtain ⟨hkept, hsame⟩ := NodeFiles.mutate_cases lan alloc op hremove _ rfl nodeId
    exact NodeFiles.token_eq_some.mpr ⟨hremote, hkept hmem, hsame.trans hheld⟩
  cases op with
  | allocate | ensureColor | setDesired | release | migrateColorKey => exact htoken
  | setReachability | setSerial | setProvisionState | touchChecked | setMaintenance | setHostKey
  | upsertBinding | removeBinding | migrateRemoteBindingIds | setStatus | setFdirEnabled
  | setDesiredUp => exact hmutate (by nofun)
  | upsertNode target host role reachability serial displayName mintedToken =>
      obtain ⟨hharmless, hlookup, hinline⟩ := hundisturbed
      simp only [NodeFiles.run, Action.run_map]
      exact NodeFiles.token_upsertNode host role reachability serial displayName mintedToken
        hharmless hlookup hinline htoken
  | addNodeByHost host role displayName mintedId mintedToken =>
      simp only [NodeFiles.run, Action.run_map]
      rcases NodeFiles.addNodeByHost_cases lan host role displayName mintedId mintedToken _ rfl
        with hsame | ⟨hnew, hwritten⟩
      · rw [hsame]
        exact htoken
      · obtain ⟨hharmless, hfresh⟩ := hundisturbed hnew
        have hne : nodeId ≠ mintedId := fun h => hfresh (h ▸ hmem)
        exact hwritten.token_other hharmless hne htoken
  | setAgentToken target token =>
      obtain ⟨hharmless, htopology⟩ := hundisturbed
      cases hset : NodeFiles.setAgentToken target token answers files with
      | mk result files' =>
          have hrun : NodeFiles.run lan alloc (.setAgentToken target token) answers files =
              (result.map fun _ => (), files') := by
            simp only [NodeFiles.run, Action.run_map, hset]
          rw [hrun]
          rcases NodeFiles.setAgentToken_cases target token _ _ hset with
            rfl | ⟨htarget, hwritten, hok⟩
          · exact htoken
          · by_cases hne : nodeId = target
            · subst hne
              obtain ⟨entry, rfl⟩ := hok (htopology htarget hwritten.readable hwritten.written)
              exact absurd ⟨.inl ⟨token, rfl⟩, congrArg (fun r => r.1.isOk) hrun⟩ hrenewed
            · exact hwritten.token_other hharmless hne htoken
  | removeNode target =>
      cases hremove : NodeFiles.removeNode target answers files with
      | mk result files' =>
          have hrun : NodeFiles.run lan alloc (.removeNode target) answers files =
              (result.map fun _ => (), files') := by
            simp only [NodeFiles.run, Action.run_map, hremove]
          rw [hrun]
          obtain ⟨hothers, hself⟩ := NodeFiles.removeNode_cases target _ _ hremove
          by_cases hne : nodeId = target
          · subst hne
            rcases hself with rfl | ⟨htopology, hok⟩
            · exact htoken
            · obtain ⟨hreadable, hwritten⟩ := hundisturbed hmem htopology
              obtain ⟨answer, rfl⟩ := hok hreadable hwritten
              exact absurd ⟨.inr rfl, congrArg (fun r => r.1.isOk) hrun⟩ hrenewed
          · obtain ⟨hkept, hsame⟩ := hothers nodeId hne
            exact NodeFiles.token_eq_some.mpr ⟨hremote, hkept hmem, hsame.trans hheld⟩

/-- Along undisturbed operations a node keeps its token until a `set_agent_token` or a
`remove_node` of that node returns. -/
theorem token_stable (lan : LanConfig) (files : NodeFiles) (first second : List TokenEvent)
    (hundisturbed : (tokenMachine lan).Along Undisturbed files (first ++ second))
    (nodeId τ : String)
    (htoken : ((tokenMachine lan).run files first).token nodeId = some τ)
    (hrenewed : (tokenMachine lan).Along (fun files event => ¬ Renewed lan nodeId files event)
      ((tokenMachine lan).run files first) second) :
    ((tokenMachine lan).run files (first ++ second)).token nodeId = some τ := by
  rw [Machine.run_append]
  have hsecond := ((tokenMachine lan).along_append files first second).mp hundisturbed |>.2
  exact (tokenMachine lan).run_invariant (I := fun files => files.token nodeId = some τ)
    (fun files event htoken h => token_next h.1 htoken h.2)
    (hsecond.and _ hrenewed) htoken

/-- An operation whose reads and writes are all answered does not disturb a token when no row
carries one inline. -/
theorem undisturbed_of_answered {files : NodeFiles} {op : StoreOp} (hlegacy : files.legacy = ∅)
    (hminted : ∀ host role displayName mintedId token,
      op = .addNodeByHost host role displayName mintedId token → mintedId ∉ files.topology.nodes) :
    Undisturbed files { op := op } := by
  cases op with
  | upsertNode =>
      refine ⟨nofun, nofun, ?_⟩
      intro inline τ h
      simp [hlegacy, truthy] at h
  | addNodeByHost => exact fun _ => ⟨nofun, hminted _ _ _ _ _ rfl⟩
  | setAgentToken => exact ⟨nofun, fun _ _ _ => rfl⟩
  | removeNode => exact fun _ _ => ⟨nofun, fun _ => rfl⟩
  | _ => trivial

/-- Registering two nodes. -/
def registerTwo : List TokenEvent :=
  [{ op := .upsertNode "node-a" "192.168.1.20" "remote_producer" "unknown" none none "token-a" },
    { op := .upsertNode "node-b" "192.168.1.21" "remote_producer" "unknown" none none "token-b" }]

theorem token_stable_registerTwo :
    ((tokenMachine {}).run {} (registerTwo ++
      [{ op := .setAgentToken "node-a" "token-c" }, { op := .removeNode "node-a" }])).token
        "node-b" = some "token-b" := by
  apply token_stable
  · have hempty : ∀ files : NodeFiles, files.legacy.isEmpty = true → files.legacy = ∅ :=
      fun files h => Std.ExtTreeMap.isEmpty_iff.mp h
    refine ⟨?_, ?_, ?_, ?_, trivial⟩
    · exact undisturbed_of_answered (hempty _ (by decide +kernel)) nofun
    · exact undisturbed_of_answered (hempty _ (by decide +kernel)) nofun
    · exact undisturbed_of_answered (hempty _ (by decide +kernel)) nofun
    · exact undisturbed_of_answered (hempty _ (by decide +kernel)) nofun
  · decide +kernel
  · refine ⟨?_, ?_, trivial⟩
    · rintro ⟨⟨token, h⟩ | h, -⟩
      · simp at h
      · cases h
    · rintro ⟨⟨token, h⟩ | h, -⟩
      · cases h
      · simp at h

/-- Setting the token of one node while the secret file cannot be read loses the token of
another; registering a node again while it cannot be read mints a new one; and a token that
was set on a row with an old inline token is lost when the node is registered again. -/
theorem token_lost :
    let files := (tokenMachine {}).run {} registerTwo
    let inlined := { files with legacy := (∅ : Dict String).insert "node-b" "token-0" }
    let rotate (nodeId : String) (answers : SecretAnswers) : TokenEvent :=
      { op := .setAgentToken nodeId "token-c", answers := answers }
    let register (answers : SecretAnswers) : TokenEvent :=
      { op := .upsertNode "node-b" "192.168.1.21" "remote_producer" "unknown" none none "token-d"
        answers := answers }
    (files.token "node-b" = some "token-b" ∧
      ((tokenMachine {}).next files (rotate "node-a" { update := .unreadable })).token "node-b" =
        none) ∧
    (files.token "node-b" = some "token-b" ∧
      ((tokenMachine {}).next files (register { lookup := .unreadable })).token "node-b" =
        some "token-d") ∧
    (((tokenMachine {}).next inlined (rotate "node-b" {})).token "node-b" = some "token-c" ∧
      ((tokenMachine {}).run inlined [rotate "node-b" {}, register {}]).token "node-b" =
        some "token-0") := by
  decide +kernel

end CameraStack.Topology
