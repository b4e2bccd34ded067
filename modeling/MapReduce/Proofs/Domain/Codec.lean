import MapReduce.Proofs.Json.RoundTrip
import MapReduce.Domain.Entity
import MapReduce.Kv.Client
import Mathlib

/-! # Reading back a stored invocation

The stored text of an invocation reads back as the invocation itself, provided it is one the
program writes: its counters are 64-bit numbers and its creation time is in normal form. The
decoders of records are applicative, so each field is read by its own lemma and the record by
`Decode.struct_obj` over them. Requests and workflows read back the same way. -/

namespace MapReduce

/-! ## Numbers and optional texts -/

/-- A number below `2 ^ 64` is written as an exact integer. -/
theorem Json.nat_of_lt {n : Nat} (h : n < 2 ^ 64) : Json.nat n = .num (.int n) := by
  have : (n : Int) < Number.intBound := by simp [Number.intBound]; omega
  simp [Json.nat, Number.ofInt, Number.intMin, this]

theorem Json.readable_nat {n : Nat} (depth : Nat) (h : n < 2 ^ 64) : Json.Readable depth (Json.nat n) := by
  rw [Json.nat_of_lt h]
  exact .int depth n (by simp [Number.intMin]) (by simp [Number.intBound]; omega)

theorem Json.readable_optStr (depth : Nat) (o : Option String) : Json.Readable depth (Json.optStr o) := by
  cases o with
  | none => exact .null depth
  | some s => exact .str depth s

/-- Members are sorted when their keys are. -/
theorem Json.sorted_of_keys {kvs : List (String × Json)} (h : (kvs.map (·.1)).Pairwise (· < ·)) :
    kvs.Pairwise fun a b => a.1 < b.1 :=
  List.pairwise_map.mp h

/-! ## The decoders of fields and records -/

namespace Decode

theorem nat64_int (n : Nat) : nat64 (.num (.int n)) = .ok n := by
  simp only [nat64]
  simp

theorem nat64_nat {n : Nat} (h : n < 2 ^ 64) : nat64 (Json.nat n) = .ok n := by
  rw [Json.nat_of_lt h]
  exact nat64_int n

theorem option_optStr (o : Option String) : option string (Json.optStr o) = .ok o := by
  cases o <;> rfl

theorem timestamp_str {s : String} (h : Text.normalTimestamp s = .ok s) : timestamp (.str s) = .ok s := by
  simp [timestamp, h]

namespace Fields

theorem required_run {α : Type} {kvs : List (String × Json)} {name : String} {pos : Nat}
    {item : Json → Except String α} {what : String} {size : Nat} {v : Json} {a : α}
    (hv : Json.lookup kvs name = some v) (ha : item v = .ok a) :
    (required name pos item).run ⟨.named kvs, what, size⟩ = .ok a := by
  simp [required, Record.get?, hv, ha, Except.mapError]

theorem withDefault_run {α : Type} {kvs : List (String × Json)} {name : String} {pos : Nat}
    {dflt : α} {item : Json → Except String α} {what : String} {size : Nat} {v : Json} {a : α}
    (hv : Json.lookup kvs name = some v) (ha : item v = .ok a) :
    (withDefault name pos dflt item).run ⟨.named kvs, what, size⟩ = .ok a := by
  simp [withDefault, Record.get?, hv, ha, Except.mapError]

theorem map_run {α β : Type} (f : α → β) {x : Fields α} {r : Record} {a : α}
    (h : x.run r = .ok a) : (f <$> x).run r = .ok (f a) := by
  simp [Functor.map, map, h, Except.map]

theorem seq_run {α β : Type} {f : Fields (α → β)} {x : Fields α} {r : Record} {g : α → β} {a : α}
    (hf : f.run r = .ok g) (hx : x.run r = .ok a) : (f <*> x).run r = .ok (g a) := by
  simp [Seq.seq, seq, hf, hx]

end Fields

theorem struct_obj {α : Type} {what : String} {size : Nat} {fields : Fields α}
    {kvs : List (String × Json)} {a : α} (h : fields.run ⟨.named kvs, what, size⟩ = .ok a) :
    struct what size fields (.obj kvs) = .ok a := by
  simp [struct, struct.run, h, Record.finish]

end Decode

open Decode.Fields

/-! ## Invocations -/

theorem Direction.decode_text (d : Direction) : Direction.decode (.str d.text) = .ok d := by
  cases d <;> rfl

/-- A fan-out state whose counters are 64-bit numbers. -/
def FanOut.Bounded : FanOut → Prop
  | .leaf => True
  | .fannedOut c w => c < 2 ^ 64 ∧ w < 2 ^ 64

theorem FanOut.decode_obj_fannedOut {kvs : List (String × Json)}
    (h : Json.lookup kvs "state" = some (.str "fanned_out")) :
    FanOut.decode (.obj kvs) = FanOut.counters (.obj kvs) := by
  simp [FanOut.decode, h, FanOut.tag, FanOut.tags, bind, Except.bind]

theorem FanOut.decode_toJson {f : FanOut} (hf : f.Bounded) : FanOut.decode f.toJson = .ok f := by
  cases f with
  | leaf => simp [FanOut.toJson, FanOut.decode, Json.lookup, FanOut.tag, FanOut.tags, bind, Except.bind]
  | fannedOut c w =>
    obtain ⟨hc, hw⟩ := hf
    have hcounters : FanOut.counters (.obj [("count", .nat c), ("state", .str "fanned_out"),
        ("waiting", .nat w)]) = .ok (.fannedOut c w) := by
      apply Decode.struct_obj
      apply seq_run
      · exact map_run _ (required_run rfl (Decode.nat64_nat hc))
      · exact required_run rfl (Decode.nat64_nat hw)
    rw [FanOut.toJson, FanOut.decode_obj_fannedOut rfl, hcounters]

theorem FanOut.readable_toJson {f : FanOut} (depth : Nat) (room : 2 ≤ depth) (hf : f.Bounded) :
    Json.Readable depth f.toJson := by
  cases f with
  | leaf =>
    refine .obj depth _ room (by simp) ?_
    simp only [List.mem_singleton, forall_eq]
    exact .str _ _
  | fannedOut c w =>
    obtain ⟨hc, hw⟩ := hf
    refine .obj depth _ room (Json.sorted_of_keys (by simp only [List.map_cons, List.map_nil]; decide)) ?_
    simp only [List.mem_cons, List.mem_nil_iff, or_false, forall_eq_or_imp, forall_eq]
    exact ⟨Json.readable_nat _ hc, .str _ _, Json.readable_nat _ hw⟩

/-- The JSON value of an invocation, its members sorted by name. -/
theorem Invocation.toJson_eq (x : Invocation) :
    Entity.toJson x = .obj [("created_at", .str x.createdAt), ("direction", .str x.direction.text),
      ("error", Json.optStr x.error), ("fan_out", x.fanOut.toJson), ("invocation_id", .str x.id),
      ("parent_invocation_id", Json.optStr x.parent), ("step_name", .str x.step),
      ("workflow_name", .str x.workflow)] := by
  rfl

theorem Invocation.decode_toJson {x : Invocation} (ht : Text.normalTimestamp x.createdAt = .ok x.createdAt)
    (hf : x.fanOut.Bounded) : Entity.decode (Entity.toJson x) = .ok x := by
  obtain ⟨wf, id, parent, step, dir, fan, err, created⟩ := x
  rw [Invocation.toJson_eq]
  apply Decode.struct_obj
  apply seq_run; apply seq_run; apply seq_run; apply seq_run; apply seq_run; apply seq_run; apply seq_run
  · exact map_run _ (required_run rfl rfl)
  · exact required_run rfl rfl
  · exact withDefault_run rfl (Decode.option_optStr _)
  · exact required_run rfl rfl
  · exact required_run rfl (Direction.decode_text _)
  · exact withDefault_run rfl (FanOut.decode_toJson hf)
  · exact withDefault_run rfl (Decode.option_optStr _)
  · exact required_run rfl (Decode.timestamp_str ht)

theorem Invocation.readable_toJson {x : Invocation} (hf : x.fanOut.Bounded) :
    Json.Readable 128 (Entity.toJson x) := by
  rw [Invocation.toJson_eq]
  refine .obj 128 _ (by decide)
    (Json.sorted_of_keys (by simp only [List.map_cons, List.map_nil]; decide)) ?_
  simp only [List.mem_cons, List.mem_nil_iff, or_false, forall_eq_or_imp, forall_eq]
  exact ⟨.str _ _, .str _ _, Json.readable_optStr _ _, FanOut.readable_toJson _ (by decide) hf,
    .str _ _, Json.readable_optStr _ _, .str _ _, .str _ _⟩

/-- The stored text of an invocation the program writes reads back as that invocation. -/
theorem Invocation.decodeAs_toText {x : Invocation} (ht : Text.normalTimestamp x.createdAt = .ok x.createdAt)
    (hf : x.fanOut.Bounded) : Kv.decodeAs Entity.decode (Entity.toText x) = .ok x := by
  simp only [Kv.decodeAs, Kv.decodeRaw, Entity.toText, JsonRead.read_write (Invocation.readable_toJson hf),
    bind, Except.bind, Invocation.decode_toJson ht hf]

/-! ## Requests -/

theorem Decode.option_timestamp {o : Option String}
    (h : ∀ t, o = some t → Text.normalTimestamp t = .ok t) :
    Decode.option Decode.timestamp (Json.optStr o) = .ok o := by
  cases o with
  | none => rfl
  | some t => simp [Json.optStr, Decode.option, Decode.timestamp_str (h t rfl), Except.map]

/-- A request that reads back from its stored text: its times are in normal form and its context
is a value the reader gives back one level down. -/
structure Request.Readable (x : Request) : Prop where
  createdAt : Text.normalTimestamp x.createdAt = .ok x.createdAt
  doneAt : ∀ t, x.doneAt = some t → Text.normalTimestamp t = .ok t
  context : Json.Readable 127 x.context

/-- Marking a request done at a time in normal form keeps it readable. -/
theorem Request.Readable.markDone {x : Request} (hx : x.Readable) {now : String}
    (hnow : Text.normalTimestamp now = .ok now) : (x.markDone now).Readable :=
  ⟨hx.createdAt, fun t ht => by simp only [Request.markDone, Option.some.injEq] at ht; exact ht ▸ hnow,
    hx.context⟩

theorem Request.Readable.markFailed {x : Request} (hx : x.Readable) (invocation : String) {now : String}
    (hnow : Text.normalTimestamp now = .ok now) : (x.markFailed invocation now).Readable :=
  Request.Readable.markDone (x := { x with failedInvocation := some invocation })
    ⟨hx.createdAt, hx.doneAt, hx.context⟩ hnow

/-- The JSON value of a request, its members sorted by name. -/
theorem Request.toJson_eq (x : Request) :
    Entity.toJson x = .obj [("context", x.context), ("created_at", .str x.createdAt),
      ("done_at", Json.optStr x.doneAt), ("failed_invocation_id", Json.optStr x.failedInvocation),
      ("invocation_id", .str x.invocation), ("is_blocking", .bool x.isBlocking),
      ("is_done", .bool x.isDone), ("job_name", .str x.job), ("request_id", .str x.id),
      ("workflow_name", .str x.workflow)] := by
  rfl

theorem Request.decode_toJson {x : Request} (hx : x.Readable) : Entity.decode (Entity.toJson x) = .ok x := by
  obtain ⟨wf, id, job, inv, ctx, blocking, done, failed, created, doneAt⟩ := x
  rw [Request.toJson_eq]
  apply Decode.struct_obj
  apply seq_run; apply seq_run; apply seq_run; apply seq_run; apply seq_run; apply seq_run
  apply seq_run; apply seq_run; apply seq_run
  · exact map_run _ (required_run rfl rfl)
  · exact required_run rfl rfl
  · exact required_run rfl rfl
  · exact required_run rfl rfl
  · exact withDefault_run rfl rfl
  · exact required_run rfl rfl
  · exact required_run rfl rfl
  · exact withDefault_run rfl (Decode.option_optStr _)
  · exact required_run rfl (Decode.timestamp_str hx.createdAt)
  · exact withDefault_run rfl (Decode.option_timestamp hx.doneAt)

theorem Request.readable_toJson {x : Request} (hx : x.Readable) : Json.Readable 128 (Entity.toJson x) := by
  rw [Request.toJson_eq]
  refine .obj 128 _ (by decide)
    (Json.sorted_of_keys (by simp only [List.map_cons, List.map_nil]; decide)) ?_
  simp only [List.mem_cons, List.mem_nil_iff, or_false, forall_eq_or_imp, forall_eq]
  exact ⟨hx.context, .str _ _, Json.readable_optStr _ _, Json.readable_optStr _ _, .str _ _, .bool _ _,
    .bool _ _, .str _ _, .str _ _, .str _ _⟩

/-- The stored text of a readable request reads back as that request. -/
theorem Request.decodeAs_toText {x : Request} (hx : x.Readable) :
    Kv.decodeAs Entity.decode (Entity.toText x) = .ok x := by
  simp only [Kv.decodeAs, Kv.decodeRaw, Entity.toText, JsonRead.read_write (Request.readable_toJson hx),
    bind, Except.bind, Request.decode_toJson hx]

/-! ## Workflows -/

/-- The JSON value of a workflow, its members sorted by name. -/
theorem Workflow.toJson_eq (x : Workflow) :
    Entity.toJson x = .obj [("description", .str x.description),
      ("handlers_state", Json.optStr x.handlersState), ("workflow_name", .str x.name)] := by
  rfl

theorem Workflow.decode_toJson (x : Workflow) : Entity.decode (Entity.toJson x) = .ok x := by
  obtain ⟨name, description, state⟩ := x
  rw [Workflow.toJson_eq]
  apply Decode.struct_obj
  apply seq_run
  apply seq_run
  · exact map_run _ (required_run rfl rfl)
  · exact required_run rfl rfl
  · exact withDefault_run rfl (Decode.option_optStr _)

theorem Workflow.readable_toJson (x : Workflow) : Json.Readable 128 (Entity.toJson x) := by
  rw [Workflow.toJson_eq]
  refine .obj 128 _ (by decide)
    (Json.sorted_of_keys (by simp only [List.map_cons, List.map_nil]; decide)) ?_
  simp only [List.mem_cons, List.mem_nil_iff, or_false, forall_eq_or_imp, forall_eq]
  exact ⟨.str _ _, Json.readable_optStr _ _, .str _ _⟩

/-- The stored text of every workflow reads back as that workflow. -/
theorem Workflow.decodeAs_toText (x : Workflow) :
    Kv.decodeAs Entity.decode (Entity.toText x) = .ok x := by
  simp only [Kv.decodeAs, Kv.decodeRaw, Entity.toText, JsonRead.read_write (Workflow.readable_toJson x),
    bind, Except.bind, Workflow.decode_toJson]

end MapReduce
