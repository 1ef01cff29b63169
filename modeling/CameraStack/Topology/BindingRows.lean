/-
# Stored rows of bindings

A remote binding is stored as a JSON object and decoded each time it is read.  Three of its
fields are set one at a time: the status, whether the stream recovers by itself, and whether
the operator wants it up.  Rows written before the last of them existed do not store it; it
is then read off the second, which was the operator's switch at the time.

The rows are modelled as they are stored, every field with the default it has when it is
missing.  What Python makes of a value that is not a string where a string is expected is a
parameter.
-/

import CameraStack.Topology.AllocatorFile

namespace CameraStack.Topology

open CameraStack.Lib

/-! ## Decoding -/

/-- A transport as it is decoded, with the placeholder for SRTP. -/
structure DecodedTransport extends StreamTransport where
  srtp : Option PlainJson

/-- `StreamBinding` as it is decoded: nothing checks the status of a stored row. -/
structure DecodedBinding where
  bindingId : String
  nodeId : String
  sensor : String
  mode : StreamMode
  transport : DecodedTransport
  janus : StreamJanusConfig
  fdir : StreamFdirConfig
  status : String
  desiredUp : Bool

/-- The values of `StreamStatus`. -/
def StreamStatus.value : StreamStatus → String
  | .configuredOffline => "configured_offline"
  | .waitingForRtp => "waiting_for_rtp"
  | .online => "online"
  | .stale => "stale"
  | .degraded => "degraded"

/-- `StreamStatus(value)`. -/
def StreamStatus.ofValue (value : String) : Option StreamStatus :=
  [configuredOffline, waitingForRtp, online, stale, degraded].find? fun s => s.value = value

/-- The values of `StreamMode`. -/
def StreamMode.value : StreamMode → String
  | .localProducer => "local_producer"
  | .remoteProducer => "remote_producer"

/-- `StreamMode(value)`. -/
def StreamMode.ofJson : PlainJson → Option StreamMode
  | .str value => [localProducer, remoteProducer].find? fun m => m.value = value
  | _ => none

section Decoding

variable (repr : PlainJson → String)

/-- `StreamTransport.from_raw`. -/
def DecodedTransport.fromRaw : PlainJson → Option DecodedTransport
  | .obj raw => do
      let rtpPort ← (raw.lookup "rtp_port").bind PlainJson.toInt
      let payloadType ← ((raw.lookup "payload_type").getD (.num 96)).toInt
      pure { rtpPort := rtpPort, payloadType := payloadType
             codec := ((raw.lookup "codec").getD (.str "h264")).text repr
             srtp := raw.lookup "srtp" }
  | _ => none

/-- `StreamJanusConfig.from_raw`. -/
def StreamJanusConfig.fromRaw : PlainJson → Option StreamJanusConfig
  | .obj raw => do
      let mountpointId ← (raw.lookup "mountpoint_id").bind PlainJson.toInt
      let rtpIface ← raw.lookup "rtp_iface"
      pure { mountpointId := mountpointId, rtpIface := rtpIface.text repr }
  | _ => none

/-- `StreamFdirConfig.from_raw`. -/
def StreamFdirConfig.fromRaw : PlainJson → Option StreamFdirConfig
  | .obj raw =>
      some { enabled := ((raw.lookup "enabled").getD (.bool true)).truthy
             policy := ((raw.lookup "policy").getD (.str "stream_default")).text repr }
  | _ => none

/-- `StreamBinding.from_raw`; `none` when it raises. -/
def DecodedBinding.fromRaw (raw : Members) : Option DecodedBinding := do
  let fdir ← StreamFdirConfig.fromRaw repr ((raw.lookup "fdir").getD (.obj []))
  let bindingId ← raw.lookup "binding_id"
  let nodeId ← raw.lookup "node_id"
  let sensor ← raw.lookup "sensor"
  let mode ← (raw.lookup "mode").bind StreamMode.ofJson
  let transport ← (raw.lookup "transport").bind (DecodedTransport.fromRaw repr)
  let janus ← (raw.lookup "janus").bind (StreamJanusConfig.fromRaw repr)
  pure { bindingId := bindingId.text repr
         nodeId := nodeId.text repr
         sensor := sensor.text repr
         mode := mode
         transport := transport
         janus := janus
         fdir := fdir
         status := ((raw.lookup "status").getD (.str StreamStatus.configuredOffline.value)).text repr
         -- a row of the time before the field reads it off the old switch
         desiredUp := ((raw.lookup "desired_up").getD (.bool fdir.enabled)).truthy }

/-! ## Writing one field -/

/-- The rows of the bindings. -/
abbrev BindingRows := Dict PlainJson

/-- The calls that set one field of a stored binding. -/
inductive AxisCall
  | setStatus (status : String)
  | setFdirEnabled (enabled : Bool)
  | setDesiredUp (up : Bool)
  deriving DecidableEq

/-- What a call writes into the row it found; `none` when it raises first. -/
def AxisCall.write (raw : Members) : AxisCall → Option Members
  | .setStatus status =>
      (StreamStatus.ofValue status).map fun _ => raw.set "status" (.str status)
  | .setFdirEnabled enabled =>
      match (raw.lookup "fdir").getD (.obj []) with
      | .obj fdir => some (raw.set "fdir" (.obj (Members.set "enabled" (.bool enabled) fdir)))
      | _ => none
  | .setDesiredUp up => some (raw.set "desired_up" (.bool up))

/-- `set_status`, `set_fdir_enabled` and `set_desired_up`: the row is written back when it
decodes, and a call that raises writes nothing. -/
def AxisCall.apply (bindingId : String) (rows : BindingRows) (call : AxisCall) : BindingRows :=
  match rows[bindingId]?.filter PlainJson.truthy with
  | some (.obj raw) =>
      match call.write raw with
      | some raw' =>
          if (DecodedBinding.fromRaw repr raw').isSome then rows.insert bindingId (.obj raw')
          else rows
      | none => rows
  | _ => rows

/-- `nodes.get(key)`: a list or an object is no key, and only strings are keys of a file. -/
def storedNode (nodes : Dict PlainJson) : PlainJson → Option PlainJson
  | .str nodeId => some ((nodes[nodeId]?).getD .null)
  | .arr _ | .obj _ => none
  | .null | .bool _ | .num _ => some .null

/-- `node_raw.get("serial") if node_raw else None`. -/
def storedSerial (node : PlainJson) : Option PlainJson :=
  if node.truthy then
    match node with
    | .obj raw => some ((raw.lookup "serial").getD .null)
    | _ => none
  else some .null

/-- The body of the loop of `migrate_remote_binding_ids`; `none` when it raises. -/
def migrateStoredRow (nodes : Dict PlainJson) (rows : BindingRows) (oldId : String) :
    Option BindingRows :=
  match rows[oldId]? with
  | some (.obj b) =>
      if (b.lookup "mode").bind StreamMode.ofJson ≠ some .remoteProducer then some rows
      else do
        let node ← storedNode nodes ((b.lookup "node_id").getD .null)
        let serial ← storedSerial node
        let newId := serial.text repr ++ ":" ++ ((b.lookup "sensor").getD .null).text repr
        if serial.truthy = false ∨ newId = oldId ∨ newId ∈ rows then pure rows
        else pure ((rows.erase oldId).insert newId (.obj (Members.set "binding_id" (.str newId) b)))
  | _ => none

/-- `migrate_remote_binding_ids`; when it raises nothing is written. -/
def migrateStoredRows (nodes : Dict PlainJson) (rows : BindingRows) : BindingRows :=
  (rows.keys.foldlM (migrateStoredRow repr nodes) rows).getD rows

/-! ## What a write does to the decoded binding -/

variable {repr}

/-- What each field of a decoded binding was read from. -/
structure Decodes (repr : PlainJson → String) (raw : Members) (b : DecodedBinding) : Prop where
  fdir : StreamFdirConfig.fromRaw repr ((raw.lookup "fdir").getD (.obj [])) = some b.fdir
  bindingId : (raw.lookup "binding_id").map (PlainJson.text repr) = some b.bindingId
  nodeId : (raw.lookup "node_id").map (PlainJson.text repr) = some b.nodeId
  sensor : (raw.lookup "sensor").map (PlainJson.text repr) = some b.sensor
  mode : (raw.lookup "mode").bind StreamMode.ofJson = some b.mode
  transport : (raw.lookup "transport").bind (DecodedTransport.fromRaw repr) = some b.transport
  janus : (raw.lookup "janus").bind (StreamJanusConfig.fromRaw repr) = some b.janus
  status : ((raw.lookup "status").getD (.str StreamStatus.configuredOffline.value)).text repr =
    b.status
  desiredUp : ((raw.lookup "desired_up").getD (.bool b.fdir.enabled)).truthy = b.desiredUp

theorem DecodedBinding.fromRaw_eq_some {raw : Members} {b : DecodedBinding} :
    fromRaw repr raw = some b ↔ Decodes repr raw b := by
  constructor
  · intro h
    simp only [fromRaw, Option.bind_eq_bind, Option.bind_eq_some_iff, Option.pure_def,
      Option.some.injEq] at h
    obtain ⟨fdir, hfdir, bindingId, hbindingId, nodeId, hnodeId, sensor, hsensor, mode, hmode,
      transport, htransport, janus, hjanus, rfl⟩ := h
    exact {
      fdir := hfdir
      bindingId := by rw [hbindingId]; rfl
      nodeId := by rw [hnodeId]; rfl
      sensor := by rw [hsensor]; rfl
      mode := Option.bind_eq_some_iff.mpr hmode
      transport := Option.bind_eq_some_iff.mpr htransport
      janus := Option.bind_eq_some_iff.mpr hjanus
      status := rfl
      desiredUp := rfl }
  · intro h
    obtain ⟨bindingId, hbindingId, hid⟩ := Option.map_eq_some_iff.mp h.bindingId
    obtain ⟨nodeId, hnodeId, hnode⟩ := Option.map_eq_some_iff.mp h.nodeId
    obtain ⟨sensor, hsensor, hsens⟩ := Option.map_eq_some_iff.mp h.sensor
    simp only [fromRaw, h.fdir, hbindingId, hnodeId, hsensor, h.mode, h.transport, h.janus,
      Option.bind_eq_bind, Option.bind_some, Option.pure_def, h.status, h.desiredUp, hid, hnode,
      hsens]

/-- The fields that something rewrites. -/
def rewrittenFields : List String := ["binding_id", "fdir", "status", "desired_up"]

/-- A row that agrees with another on the fields nothing rewrites decodes to the same binding
but for the others. -/
theorem Decodes.rewritten {raw raw' : Members} {b : DecodedBinding} (h : Decodes repr raw b)
    (hagree : ∀ name, name ∉ rewrittenFields → raw'.lookup name = raw.lookup name)
    {bindingId status : String} {fdir : StreamFdirConfig} {desiredUp : Bool}
    (hfdir : StreamFdirConfig.fromRaw repr ((raw'.lookup "fdir").getD (.obj [])) = some fdir)
    (hbindingId : (raw'.lookup "binding_id").map (PlainJson.text repr) = some bindingId)
    (hstatus : ((raw'.lookup "status").getD (.str StreamStatus.configuredOffline.value)).text repr
      = status)
    (hdesiredUp : ((raw'.lookup "desired_up").getD (.bool fdir.enabled)).truthy = desiredUp) :
    Decodes repr raw'
      { b with bindingId := bindingId, fdir := fdir, status := status, desiredUp := desiredUp } where
  fdir := hfdir
  bindingId := hbindingId
  nodeId := by rw [hagree "node_id" (by decide)]; exact h.nodeId
  sensor := by rw [hagree "sensor" (by decide)]; exact h.sensor
  mode := by rw [hagree "mode" (by decide)]; exact h.mode
  transport := by rw [hagree "transport" (by decide)]; exact h.transport
  janus := by rw [hagree "janus" (by decide)]; exact h.janus
  status := hstatus
  desiredUp := hdesiredUp

theorem lookup_set_of_not_mem {key name : String} (hkey : key ∈ rewrittenFields)
    (hname : name ∉ rewrittenFields) (value : PlainJson) (raw : Members) :
    (raw.set key value).lookup name = raw.lookup name := by
  rw [Members.lookup_set, if_neg]
  rintro rfl
  exact hname hkey

/-- Writing the status changes the status. -/
theorem Decodes.setStatus {raw : Members} {b : DecodedBinding} (h : Decodes repr raw b)
    (status : String) :
    Decodes repr (raw.set "status" (.str status)) { b with status := status } := by
  apply h.rewritten (fun name => fun hname => lookup_set_of_not_mem (by decide) hname _ _)
  · rw [Members.lookup_set, if_neg (by decide)]
    exact h.fdir
  · rw [Members.lookup_set, if_neg (by decide)]
    exact h.bindingId
  · rw [Members.lookup_set, if_pos rfl]
    rfl
  · rw [Members.lookup_set, if_neg (by decide)]
    exact h.desiredUp

/-- Writing the intent changes the intent. -/
theorem Decodes.setDesiredUp {raw : Members} {b : DecodedBinding} (h : Decodes repr raw b)
    (up : Bool) : Decodes repr (raw.set "desired_up" (.bool up)) { b with desiredUp := up } := by
  apply h.rewritten (fun name => fun hname => lookup_set_of_not_mem (by decide) hname _ _)
  · rw [Members.lookup_set, if_neg (by decide)]
    exact h.fdir
  · rw [Members.lookup_set, if_neg (by decide)]
    exact h.bindingId
  · rw [Members.lookup_set, if_neg (by decide)]
    exact h.status
  · rw [Members.lookup_set, if_pos rfl]
    rfl

/-- Writing the recovery switch changes the switch, and the intent of a row that does not
store it. -/
theorem Decodes.setFdirEnabled {raw : Members} {b : DecodedBinding} (h : Decodes repr raw b)
    (enabled : Bool) :
    ∃ raw', (AxisCall.setFdirEnabled enabled).write raw = some raw' ∧
      raw'.lookup "desired_up" = raw.lookup "desired_up" ∧
      Decodes repr raw'
        { b with
          fdir := { b.fdir with enabled := enabled }
          desiredUp := if (raw.lookup "desired_up").isSome then b.desiredUp else enabled } := by
  have hfdir := h.fdir
  cases hraw : (raw.lookup "fdir").getD (.obj []) with
  | null | bool | num | str | arr =>
      rw [hraw] at hfdir
      cases hfdir
  | obj fdir =>
      rw [hraw] at hfdir
      refine ⟨raw.set "fdir" (.obj (Members.set "enabled" (.bool enabled) fdir)), ?_, ?_, ?_⟩
      · simp only [AxisCall.write, hraw]
      · rw [Members.lookup_set, if_neg (by decide)]
      · apply h.rewritten (fun name => fun hname => lookup_set_of_not_mem (by decide) hname _ _)
        · rw [Members.lookup_set, if_pos rfl]
          simp only [StreamFdirConfig.fromRaw, Option.some.injEq] at hfdir
          rw [← hfdir]
          simp [StreamFdirConfig.fromRaw, Members.lookup_set, PlainJson.truthy]
        · rw [Members.lookup_set, if_neg (by decide)]
          exact h.bindingId
        · rw [Members.lookup_set, if_neg (by decide)]
          exact h.status
        · rw [Members.lookup_set, if_neg (by decide)]
          have hdesiredUp := h.desiredUp
          cases hstored : raw.lookup "desired_up" with
          | none => rfl
          | some stored =>
              rw [hstored] at hdesiredUp
              exact hdesiredUp

/-- Writing the id changes the id. -/
theorem Decodes.setBindingId {raw : Members} {b : DecodedBinding} (h : Decodes repr raw b)
    (id : String) : Decodes repr (raw.set "binding_id" (.str id)) { b with bindingId := id } := by
  apply h.rewritten (fun name => fun hname => lookup_set_of_not_mem (by decide) hname _ _)
  · rw [Members.lookup_set, if_neg (by decide)]
    exact h.fdir
  · rw [Members.lookup_set, if_pos rfl]
    rfl
  · rw [Members.lookup_set, if_neg (by decide)]
    exact h.status
  · rw [Members.lookup_set, if_neg (by decide)]
    exact h.desiredUp

/-! ## Sequences of calls -/

/-- The value of the last call that names a field, or the original one. -/
def lastNamed {α : Type} (named : AxisCall → Option α) (calls : List AxisCall) (original : α) : α :=
  (calls.filterMap named).getLast?.getD original

theorem lastNamed_cons {α : Type} (named : AxisCall → Option α) (call : AxisCall)
    (calls : List AxisCall) (original : α) :
    lastNamed named (call :: calls) original =
      lastNamed named calls ((named call).getD original) := by
  unfold lastNamed
  cases hcall : named call with
  | none => simp [hcall]
  | some value =>
      rw [List.filterMap_cons_some hcall, List.getLast?_cons]
      rfl

/-- The status a call sets; a status that does not exist is refused. -/
def AxisCall.status? : AxisCall → Option String
  | .setStatus status => (StreamStatus.ofValue status).map fun _ => status
  | _ => none

/-- The recovery switch a call sets. -/
def AxisCall.fdirEnabled? : AxisCall → Option Bool
  | .setFdirEnabled enabled => some enabled
  | _ => none

/-- The intent a call sets. -/
def AxisCall.desiredUp? : AxisCall → Option Bool
  | .setDesiredUp up => some up
  | _ => none

/-- The binding with each named field set to the argument of the last call for it.  The intent
of a row that stores none follows the recovery switch until a call names it. -/
def DecodedBinding.settled (stored : Bool) (b : DecodedBinding) (calls : List AxisCall) :
    DecodedBinding :=
  let enabled := lastNamed AxisCall.fdirEnabled? calls b.fdir.enabled
  { b with
    status := lastNamed AxisCall.status? calls b.status
    fdir := { b.fdir with enabled := enabled }
    desiredUp := lastNamed AxisCall.desiredUp? calls (if stored then b.desiredUp else enabled) }

/-- A row that decodes is not an empty object. -/
theorem Decodes.truth {raw : Members} {b : DecodedBinding} (h : Decodes repr raw b) :
    PlainJson.truthy (.obj raw) = true := by
  cases raw with
  | nil => cases h.bindingId
  | cons member raw => rfl

/-- One call, on a row that decodes. -/
theorem AxisCall.apply_spec {rows : BindingRows} {bindingId : String} {raw : Members}
    {b : DecodedBinding} (hrow : rows[bindingId]? = some (.obj raw)) (h : Decodes repr raw b)
    (call : AxisCall) :
    ∃ raw' b', (call.apply repr bindingId rows)[bindingId]? = some (.obj raw') ∧
      Decodes repr raw' b' ∧
      (∀ calls, b'.settled (raw'.lookup "desired_up").isSome calls =
        b.settled (raw.lookup "desired_up").isSome (call :: calls)) ∧
      ∀ other, other ≠ bindingId → (call.apply repr bindingId rows)[other]? = rows[other]? := by
  have hfound : rows[bindingId]?.filter PlainJson.truthy = some (.obj raw) := by
    rw [hrow]
    exact Option.filter_eq_some_iff.mpr ⟨rfl, h.truth⟩
  -- a write whose row decodes is made
  have hwritten : ∀ {raw' b'}, call.write raw = some raw' → Decodes repr raw' b' →
      call.apply repr bindingId rows = rows.insert bindingId (.obj raw') := by
    intro raw' b' hwrite hdecodes
    simp [apply, hfound, hwrite, DecodedBinding.fromRaw_eq_some.mpr hdecodes]
  have hself : ∀ raw' : Members,
      (rows.insert bindingId (.obj raw'))[bindingId]? = some (PlainJson.obj raw') :=
    fun raw' => by rw [Dict.getElem?_insert, if_pos rfl]
  have hothers : ∀ raw' other, other ≠ bindingId →
      (rows.insert bindingId (.obj raw'))[other]? = rows[other]? :=
    fun raw' other hne => by rw [Dict.getElem?_insert, if_neg hne.symm]
  cases call with
  | setStatus status =>
      cases hvalid : StreamStatus.ofValue status with
      | none =>
          have hsame : (setStatus status).apply repr bindingId rows = rows := by
            simp [apply, hfound, write, hvalid]
          rw [hsame]
          refine ⟨raw, b, hrow, h, fun calls => ?_, fun _ _ => rfl⟩
          simp [DecodedBinding.settled, lastNamed_cons, status?, fdirEnabled?, desiredUp?, hvalid]
      | some value =>
          have hdecodes := h.setStatus status
          rw [hwritten (by simp [write, hvalid]) hdecodes]
          refine ⟨_, _, hself _, hdecodes, fun calls => ?_, hothers _⟩
          rw [Members.lookup_set, if_neg (by decide)]
          simp [DecodedBinding.settled, lastNamed_cons, status?, fdirEnabled?, desiredUp?, hvalid]
  | setFdirEnabled enabled =>
      obtain ⟨raw', hwrite, hstored, hdecodes⟩ := h.setFdirEnabled enabled
      rw [hwritten hwrite hdecodes]
      refine ⟨_, _, hself _, hdecodes, fun calls => ?_, hothers _⟩
      rw [hstored]
      cases hlegacy : (raw.lookup "desired_up").isSome with
      | true =>
          simp [DecodedBinding.settled, lastNamed_cons, status?, fdirEnabled?, desiredUp?]
      | false =>
          simp [DecodedBinding.settled, lastNamed_cons, status?, fdirEnabled?, desiredUp?]
  | setDesiredUp up =>
      have hdecodes := h.setDesiredUp up
      rw [hwritten rfl hdecodes]
      refine ⟨_, _, hself _, hdecodes, fun calls => ?_, hothers _⟩
      rw [Members.lookup_set, if_pos rfl]
      simp [DecodedBinding.settled, lastNamed_cons, status?, fdirEnabled?, desiredUp?]

/-- A sequence of calls settles the binding and leaves the other rows. -/
theorem settled_of_calls {rows : BindingRows} {bindingId : String} {raw : Members}
    {b : DecodedBinding} (hrow : rows[bindingId]? = some (.obj raw)) (h : Decodes repr raw b)
    (calls : List AxisCall) :
    (∃ raw', (calls.foldl (AxisCall.apply repr bindingId) rows)[bindingId]? = some (.obj raw') ∧
      Decodes repr raw' (b.settled (raw.lookup "desired_up").isSome calls)) ∧
      ∀ other, other ≠ bindingId →
        (calls.foldl (AxisCall.apply repr bindingId) rows)[other]? = rows[other]? := by
  induction calls generalizing rows raw b with
  | nil =>
      refine ⟨⟨raw, hrow, ?_⟩, fun _ _ => rfl⟩
      have hdesiredUp := h.desiredUp
      have hsettled : b.settled (raw.lookup "desired_up").isSome [] = b := by
        cases hstored : raw.lookup "desired_up" with
        | some stored => rfl
        | none =>
            -- without a stored intent the decoded one is the recovery switch
            rw [hstored] at hdesiredUp
            have hsame : b.fdir.enabled = b.desiredUp := hdesiredUp
            have hderived : b.settled false [] = { b with desiredUp := b.fdir.enabled } := rfl
            exact hderived.trans (by rw [hsame])
      rw [hsettled]
      exact h
  | cons call calls ih =>
      obtain ⟨raw', b', hrow', h', hsettled, hothers⟩ := AxisCall.apply_spec hrow h call
      obtain ⟨hcalls, hkept⟩ := ih hrow' h'
      rw [hsettled] at hcalls
      exact ⟨hcalls, fun other hne => (hkept other hne).trans (hothers other hne)⟩

/-! ## Migration of the ids -/

/-- Every row is under one key of its own and decodes as before but for the id. -/
def OnlyRekeyed (repr : PlainJson → String) (rows rows' : BindingRows) : Prop :=
  ∃ rename : String → String, Set.BijOn rename { key | key ∈ rows } { key | key ∈ rows' } ∧
    ∀ (key : String) raw b, rows[key]? = some (.obj raw) → Decodes repr raw b →
      ∃ raw' id, rows'[rename key]? = some (.obj raw') ∧ Decodes repr raw' { b with bindingId := id }

theorem OnlyRekeyed.refl (rows : BindingRows) : OnlyRekeyed repr rows rows :=
  ⟨id, Set.bijOn_id _, fun _ raw b hrow h => ⟨raw, b.bindingId, hrow, h⟩⟩

theorem OnlyRekeyed.trans {rows rows' rows'' : BindingRows} (first : OnlyRekeyed repr rows rows')
    (second : OnlyRekeyed repr rows' rows'') : OnlyRekeyed repr rows rows'' := by
  obtain ⟨rename, hbij, hrows⟩ := first
  obtain ⟨rename', hbij', hrows'⟩ := second
  refine ⟨rename' ∘ rename, hbij'.comp hbij, ?_⟩
  intro key raw b hrow h
  obtain ⟨raw', id, hrow', h'⟩ := hrows key raw b hrow h
  exact hrows' (rename key) raw' { b with bindingId := id } hrow' h'

/-- Moving a row to a free key and writing the key into it. -/
theorem onlyRekeyed_move {rows : BindingRows} {oldId newId : String} {raw : Members}
    (hrow : rows[oldId]? = some (.obj raw)) (hne : newId ≠ oldId) (hfree : newId ∉ rows) :
    OnlyRekeyed repr rows
      ((rows.erase oldId).insert newId (.obj (raw.set "binding_id" (.str newId)))) := by
  have hmem : ∀ key, key ∈ (rows.erase oldId).insert newId
      (.obj (raw.set "binding_id" (.str newId))) ↔ newId = key ∨ oldId ≠ key ∧ key ∈ rows := by
    intro key
    rw [Std.ExtTreeMap.mem_insert, Std.ExtTreeMap.mem_erase]
    simp
  let rename := fun key => if key = oldId then newId else key
  have hmoved : rename oldId = newId := if_pos rfl
  have hstays : ∀ key, key ≠ oldId → rename key = key := fun key hold => if_neg hold
  refine ⟨rename, ⟨?_, ?_, ?_⟩, ?_⟩
  · intro key hkey
    by_cases hold : key = oldId
    · rw [hold, hmoved]
      exact (hmem newId).mpr (.inl rfl)
    · rw [hstays key hold]
      exact (hmem key).mpr (.inr ⟨Ne.symm hold, hkey⟩)
  · intro k₁ h₁ k₂ h₂ heq
    by_cases hold₁ : k₁ = oldId
    · by_cases hold₂ : k₂ = oldId
      · exact hold₁.trans hold₂.symm
      · rw [hold₁, hmoved, hstays k₂ hold₂] at heq
        exact absurd (show newId ∈ rows from heq ▸ h₂) hfree
    · by_cases hold₂ : k₂ = oldId
      · rw [hstays k₁ hold₁, hold₂, hmoved] at heq
        exact absurd (show newId ∈ rows from heq ▸ h₁) hfree
      · rwa [hstays k₁ hold₁, hstays k₂ hold₂] at heq
  · intro key hkey
    rcases (hmem key).mp hkey with rfl | ⟨hold, hkept⟩
    · exact ⟨oldId, Dict.mem_of_getElem? hrow, hmoved⟩
    · exact ⟨key, hkept, hstays key (Ne.symm hold)⟩
  · intro key raw₀ b hkey h
    by_cases hold : key = oldId
    · subst hold
      obtain rfl : raw = raw₀ := by simpa [hrow] using hkey
      refine ⟨_, newId, ?_, h.setBindingId newId⟩
      rw [hmoved, Dict.getElem?_insert, if_pos rfl]
    · have hkept : newId ≠ key := fun heq => hfree (heq ▸ Dict.mem_of_getElem? hkey)
      refine ⟨raw₀, b.bindingId, ?_, h⟩
      rw [hstays key hold, Dict.getElem?_insert, if_neg hkept, Dict.getElem?_erase,
        if_neg (Ne.symm hold)]
      exact hkey

/-- One pass of the loop rekeys at most. -/
theorem onlyRekeyed_migrateStoredRow {nodes : Dict PlainJson} {rows rows' : BindingRows}
    {oldId : String} (h : migrateStoredRow repr nodes rows oldId = some rows') :
    OnlyRekeyed repr rows rows' := by
  unfold migrateStoredRow at h
  split at h
  · next raw hrow =>
      split_ifs at h with hmode
      · cases h
        exact .refl _
      · simp only [Option.bind_eq_bind, Option.bind_eq_some_iff] at h
        obtain ⟨node, -, serial, -, h⟩ := h
        split_ifs at h with hskip
        · cases h
          exact .refl _
        · cases h
          simp only [not_or] at hskip
          exact onlyRekeyed_move hrow hskip.2.1 hskip.2.2
  · cases h

theorem onlyRekeyed_foldlM {nodes : Dict PlainJson} (keys : List String) {rows rows' : BindingRows}
    (h : keys.foldlM (migrateStoredRow repr nodes) rows = some rows') :
    OnlyRekeyed repr rows rows' := by
  induction keys generalizing rows with
  | nil =>
      cases h
      exact .refl _
  | cons key keys ih =>
      rw [List.foldlM_cons, Option.bind_eq_bind, Option.bind_eq_some_iff] at h
      obtain ⟨mid, hmid, hrest⟩ := h
      exact (onlyRekeyed_migrateStoredRow hmid).trans (ih hrest)

/-- The migration rekeys, or raises and writes nothing. -/
theorem onlyRekeyed_migrateStoredRows (nodes : Dict PlainJson) (rows : BindingRows) :
    OnlyRekeyed repr rows (migrateStoredRows repr nodes rows) := by
  rw [migrateStoredRows]
  cases hfold : rows.keys.foldlM (migrateStoredRow repr nodes) rows with
  | none => exact .refl rows
  | some rows' => exact onlyRekeyed_foldlM rows.keys hfold

/-- After any calls the decoded binding has each named field as the last accepted call set it
and every other field as it was, but that the intent of a row that stores none follows the
recovery switch until a call names it; a migration changes ids only. -/
theorem axes_settled (repr : PlainJson → String) (nodes : Dict PlainJson) (rows : BindingRows)
    (bindingId : String) (raw : Members) (b : DecodedBinding)
    (hrow : rows[bindingId]? = some (.obj raw))
    (hdecoded : DecodedBinding.fromRaw repr raw = some b) (calls : List AxisCall) :
    (∃ raw', (calls.foldl (AxisCall.apply repr bindingId) rows)[bindingId]? = some (.obj raw') ∧
      DecodedBinding.fromRaw repr raw' =
        some (b.settled (raw.lookup "desired_up").isSome calls)) ∧
      (∀ other, other ≠ bindingId →
        (calls.foldl (AxisCall.apply repr bindingId) rows)[other]? = rows[other]?) ∧
      OnlyRekeyed repr rows (migrateStoredRows repr nodes rows) := by
  obtain ⟨⟨raw', hrow', h'⟩, hothers⟩ :=
    settled_of_calls hrow (DecodedBinding.fromRaw_eq_some.mp hdecoded) calls
  exact ⟨⟨raw', hrow', DecodedBinding.fromRaw_eq_some.mpr h'⟩, hothers,
    onlyRekeyed_migrateStoredRows nodes rows⟩

end Decoding

/-- A stored row without an intent. -/
def legacyRow : Members :=
  [("binding_id", .str "cam55:color"), ("node_id", .str "cam55"), ("sensor", .str "color"),
    ("mode", .str "remote_producer"), ("transport", .obj [("rtp_port", .num 5100)]),
    ("janus", .obj [("mountpoint_id", .num 2000), ("rtp_iface", .str "192.168.1.10")]),
    ("fdir", .obj [("enabled", .bool true)]), ("status", .str "online")]

/-- The binding of the row. -/
def legacyBinding : DecodedBinding where
  bindingId := "cam55:color"
  nodeId := "cam55"
  sensor := "color"
  mode := .remoteProducer
  transport := { rtpPort := 5100, srtp := none }
  janus := { mountpointId := 2000, rtpIface := "192.168.1.10" }
  fdir := {}
  status := "online"
  desiredUp := true

theorem fromRaw_legacyRow (repr : PlainJson → String) :
    DecodedBinding.fromRaw repr legacyRow = some legacyBinding := by
  rfl

theorem axes_settled_legacyRow :
    ∃ raw', ([AxisCall.setDesiredUp false, .setFdirEnabled false].foldl
        (AxisCall.apply (fun _ => "") "cam55:color")
        ((∅ : BindingRows).insert "cam55:color" (.obj legacyRow)))["cam55:color"]? =
          some (.obj raw') ∧
      DecodedBinding.fromRaw (fun _ => "") raw' =
        some { legacyBinding with fdir := { enabled := false }, desiredUp := false } :=
  (axes_settled (fun _ => "") ∅ _ "cam55:color" legacyRow legacyBinding
    (by rw [Dict.getElem?_insert, if_pos rfl]) (fromRaw_legacyRow _) _).1

/-- Switching the recovery of a row without an intent off takes the intent with it. -/
theorem recovery_switch_moves_intent :
    ∃ raw', ([AxisCall.setFdirEnabled false].foldl (AxisCall.apply (fun _ => "") "cam55:color")
        ((∅ : BindingRows).insert "cam55:color" (.obj legacyRow)))["cam55:color"]? =
          some (.obj raw') ∧
      (DecodedBinding.fromRaw (fun _ => "") legacyRow).map DecodedBinding.desiredUp = some true ∧
      (DecodedBinding.fromRaw (fun _ => "") raw').map DecodedBinding.desiredUp = some false := by
  have hold : ((∅ : BindingRows).insert "cam55:color" (.obj legacyRow))["cam55:color"]? =
      some (.obj legacyRow) := by
    rw [Dict.getElem?_insert, if_pos rfl]
  obtain ⟨⟨raw', hrow, hdecodes⟩, -⟩ := settled_of_calls hold
    (DecodedBinding.fromRaw_eq_some.mp (fromRaw_legacyRow fun _ => "")) [.setFdirEnabled false]
  refine ⟨raw', hrow, ?_, ?_⟩
  · rw [fromRaw_legacyRow]
    rfl
  · rw [DecodedBinding.fromRaw_eq_some.mpr hdecodes]
    rfl

end CameraStack.Topology
