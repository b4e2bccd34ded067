import MapReduce.Proofs.Domain.Codec
import MapReduce.Engine.Transport
import Mathlib

/-! # Envelopes read back

The text of an envelope is the compact writing of a record with two members, the direction and
the message, and the message is a record of its five fields. Read back with members kept as
written, that text gives the record again, whatever the four texts hold; the record gives the
direction and the message back, since no key repeats. What remains is the version gate of
`classify`: a message of the known format version classifies back as itself, and one of any
other 32-bit version is refused with the version in the error. -/

namespace MapReduce

open Json JsonRead

/-! ## Records whose keys do not repeat -/

namespace Envelope

/-- In a record without a repeated key, the members of one key are that member alone. -/
theorem filter_key_of_nodup {kvs : List (String × Json)} (hnd : (kvs.map (·.1)).Nodup)
    {p : String × Json} (hp : p ∈ kvs) : kvs.filter (·.1 == p.1) = [p] := by
  induction kvs with
  | nil => cases hp
  | cons q rest ih =>
    rw [List.map_cons, List.nodup_cons] at hnd
    have hout : ∀ r ∈ rest, r.1 ≠ q.1 := fun r hr h => hnd.1 (h ▸ List.mem_map_of_mem hr)
    rcases List.mem_cons.mp hp with rfl | hp
    · have hnone : rest.filter (·.1 == p.1) = [] :=
        List.filter_eq_nil_iff.mpr fun r hr => by simpa using hout r hr
      simp [hnone]
    · have hne : q.1 ≠ p.1 := fun h => hout p hp h.symm
      simp [hne, ih hnd.2 hp]

/-- Every member of a record without a repeated key is found by `required`. -/
theorem required_of_nodup {kvs : List (String × Json)} (hnd : (kvs.map (·.1)).Nodup)
    {p : String × Json} (hp : p ∈ kvs) : required kvs p.1 = .ok p.2 := by
  simp [required, field, filter_key_of_nodup hnd hp, bind, Except.bind]

theorem ok_bind {ε α β : Type} (a : α) (f : α → Except ε β) : (Except.ok a >>= f) = f a := rfl

theorem text_str (s : String) : text (.str s) = .ok s := rfl

theorem direction_text (d : Direction) : direction (.str d.text) = .ok d := by
  cases d <;> rfl

theorem version_nat {n : Nat} (h : n < 4294967296) : version (Json.nat n) = .ok n := by
  rw [Json.nat_of_lt (by omega)]
  simp [version]
  omega

/-- The record of a message's fields gives the message back when its version is a 32-bit
number. The steps are rewrites, one field at a time: `simp` on this goal would make the kernel
unfold the numerals of the version bounds. -/
theorem message_fields {m : WireMessage} (h : m.formatVersion < 4294967296) :
    message (.obj m.fields) = .ok m := by
  have hnd : (m.fields.map (·.1)).Nodup := by simp [WireMessage.fields]
  have hreq : ∀ p ∈ m.fields, required m.fields p.1 = .ok p.2 := fun _ hp => required_of_nodup hnd hp
  have r1 := hreq ("format_version", Json.nat m.formatVersion) (by simp [WireMessage.fields])
  have r2 := hreq ("workflow_name", .str m.workflow) (by simp [WireMessage.fields])
  have r3 := hreq ("request_id", .str m.request) (by simp [WireMessage.fields])
  have r4 := hreq ("invocation_id", .str m.invocation) (by simp [WireMessage.fields])
  have r5 := hreq ("step_name", .str m.step) (by simp [WireMessage.fields])
  rw [message, r1, ok_bind, version_nat h, ok_bind, r2, ok_bind, text_str, ok_bind, r3, ok_bind,
    text_str, ok_bind, r4, ok_bind, text_str, ok_bind, r5, ok_bind, text_str, ok_bind]

/-- The record an envelope is written from. -/
def record (d : Direction) (m : WireMessage) : Json :=
  .obj [("job_class", .str d.text), ("message", .obj m.fields)]

theorem ofJson_record (d : Direction) {m : WireMessage} (h : m.formatVersion < 4294967296) :
    ofJson (record d m) = .ok (d, m) := by
  have hnd : ([("job_class", Json.str d.text), ("message", .obj m.fields)].map (·.1)).Nodup := by
    simp
  have r1 := required_of_nodup hnd (p := ("job_class", .str d.text)) (by simp)
  have r2 := required_of_nodup hnd (p := ("message", .obj m.fields)) (by simp)
  rw [record, ofJson, r1, ok_bind, direction_text, ok_bind, r2, ok_bind, message_fields h, ok_bind]

end Envelope

/-! ## The text of an envelope -/

theorem encodeEnvelope_eq_write (d : Direction) (m : WireMessage) :
    encodeEnvelope d m = write (Envelope.record d m) := by
  have hfields : Json.writeFields m.fields = write (.obj m.fields) := rfl
  rw [← String.toList_inj, encodeEnvelope, hfields, Envelope.record]
  simp [Json.quote, write_obj_toList, membersText, sepMembers, memberText,
    writeStr_toList, String.toList_append, write_str_toList, escapeChars]

/-- The record of an envelope is one the reader takes back as written: numbers in range, and
nesting well within the reader's depth. -/
theorem legible_record (d : Direction) {m : WireMessage} (h : m.formatVersion < 2 ^ 64) :
    Legible true 128 (Envelope.record d m) := by
  have hmsg : Legible true 127 (.obj m.fields) := by
    refine .obj 127 _ (by omega) (by simp) ?_
    simp only [WireMessage.fields, List.mem_cons, List.not_mem_nil, or_false]
    rintro p (rfl | rfl | rfl | rfl | rfl)
    · rw [Json.nat_of_lt h]
      exact .int _ _ (by simp [Number.intMin]) (by simp [Number.intBound]; omega)
    all_goals exact .str _ _
  refine .obj 128 _ (by omega) (by simp) ?_
  simp only [List.mem_cons, List.not_mem_nil, or_false]
  rintro p (rfl | rfl)
  · exact .str _ _
  · exact hmsg

theorem readMembersAsWritten_encodeEnvelope (d : Direction) {m : WireMessage} (h : m.formatVersion < 2 ^ 64) :
    Json.readMembersAsWritten (encodeEnvelope d m) = .ok (Envelope.record d m) := by
  rw [encodeEnvelope_eq_write]
  exact readMembersAsWritten_write (legible_record d h)

/-! ## Classifying -/

/-- An envelope of a 32-bit version classifies as itself, or is refused for its version. -/
theorem classify_encodeEnvelope (d : Direction) {m : WireMessage} (h : m.formatVersion < 4294967296) :
    classify (encodeEnvelope d m) =
      if m.formatVersion = 0 ∨ m.formatVersion > wireFormatVersion then
        .error (.wireFormat ("versión de formato no soportada: " ++ toString m.formatVersion))
      else .ok (d, m) := by
  have hread := readMembersAsWritten_encodeEnvelope d (m := m) (by omega)
  simp only [classify, hread, Envelope.ok_bind, Envelope.ofJson_record d h]

/-- Whatever text classifies, its message is of the known format version. -/
theorem formatVersion_of_classify {s : String} {d : Direction} {m : WireMessage}
    (h : classify s = .ok (d, m)) : m.formatVersion = wireFormatVersion := by
  unfold classify at h
  cases hv : Json.readMembersAsWritten s with
  | error e => simp [hv, bind, Except.bind] at h
  | ok v =>
    cases he : Envelope.ofJson v with
    | error e => simp [hv, he, bind, Except.bind] at h
    | ok r =>
      simp only [hv, he, Envelope.ok_bind] at h
      split at h
      · cases h
      · cases h
        simp only [wireFormatVersion, not_or] at *
        omega

/-- Envelopes are read back exactly. A message of the known format version, whatever its four
texts hold, classifies back as its direction and itself; one of any other 32-bit version is
refused for its version; and whatever a text classifies as, written again, classifies the same:
the freedoms the reader allows (order, blanks, unknown members) carry nothing that classifying
keeps. -/
theorem envelopes_classify_back :
    (∀ (d : Direction) (m : WireMessage), m.formatVersion = wireFormatVersion →
      classify (encodeEnvelope d m) = .ok (d, m)) ∧
    (∀ (d : Direction) (m : WireMessage), m.formatVersion < 4294967296 →
      (m.formatVersion = 0 ∨ m.formatVersion > wireFormatVersion) →
      classify (encodeEnvelope d m) =
        .error (.wireFormat ("versión de formato no soportada: " ++ toString m.formatVersion))) ∧
    (∀ (s : String) (d : Direction) (m : WireMessage), classify s = .ok (d, m) →
      classify (encodeEnvelope d m) = .ok (d, m)) := by
  have known : ∀ (d : Direction) (m : WireMessage), m.formatVersion = wireFormatVersion →
      classify (encodeEnvelope d m) = .ok (d, m) := by
    intro d m hv
    have h32 : m.formatVersion < 4294967296 := by simp [hv, wireFormatVersion]
    rw [classify_encodeEnvelope d h32, if_neg (by simp [hv, wireFormatVersion])]
  refine ⟨known, ?_, ?_⟩
  · intro d m h32 hbad
    rw [classify_encodeEnvelope d h32, if_pos hbad]
  · intro s d m h
    exact known d m (formatVersion_of_classify h)

theorem quoted_texts_classify_back :
    classify (encodeEnvelope .reduce ⟨1, "flujo \"q\"", "r\\1", "inv\n\t", "paso ñ ☃"⟩) =
      .ok (.reduce, ⟨1, "flujo \"q\"", "r\\1", "inv\n\t", "paso ñ ☃"⟩) :=
  envelopes_classify_back.1 _ _ rfl

end MapReduce
