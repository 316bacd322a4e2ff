/-
The round trip of a schema: a value in normal form is decoded from its text in the order of its fields
and from the text that is posted, and whatever is decoded is in normal form.
-/
import EntitlementClient.Proofs.Json.Writer
import EntitlementClient.Proofs.Schema.Decoded
import EntitlementClient.Proofs.Schema.Integral
import EntitlementClient.Proofs.Schema.Order

namespace EntitlementClient.Schema

open EntitlementClient.Json

variable {α : Type} {shape : Shape α}

/-- The values that come back from their text: they can be told from their JSON, its numbers are
integers, and it nests no deeper than may be read. -/
structure Shape.Normal (shape : Shape α) (a : α) : Prop where
  proper : shape.Proper a
  integral : (shape.encode a).integral = true
  depth_le : (shape.encode a).depth ≤ depthLimit

/-- A text that holds one value of the grammar is decoded to what the value stands for. -/
theorem Shape.toOption_decode {s rest : List Char} {json : Json} (h : Reads s json rest) (blank : skipSpace rest = [])
    (small : json.depth ≤ depthLimit) : (shape.decode s).toOption = shape.ofJson json := by
  have read := shape.toOption_reader h small
  unfold decode
  cases run : (shape.reader depthLimit).run s with
  | error fault =>
    rw [run] at read
    cases found : shape.ofJson json with
    | none => rfl
    | some a => rw [found] at read; cases read
  | ok pair =>
    rw [run] at read
    obtain ⟨a, found, eq⟩ := Option.map_eq_some_iff.1 read.symm
    cases eq
    simp only [blank, found]
    rfl

theorem Shape.exists_reads_of_decode {s : List Char} {json : Json} (h : Shape.json.decode s = .ok json) :
    ∃ raw rest, Reads s raw rest ∧ skipSpace rest = [] ∧ raw.depth ≤ depthLimit ∧ raw.sorted = json := by
  unfold decode at h
  split at h
  · cases h
  · next value rest run =>
    rw [Shape.reader] at run
    obtain ⟨raw, reads, small, rfl⟩ := exists_reads_of_value run
    split at h
    · next blank =>
      cases h
      exact ⟨raw, rest, reads, blank, small, rfl⟩
    · cases h

/-- What a text is decoded to is what its JSON value stands for. -/
theorem Shape.ofJson_of_decode {s : List Char} {json : Json} {a : α} (read : Shape.json.decode s = .ok json)
    (h : shape.decode s = .ok a) : shape.ofJson json = some a ∧ json.sorted = json := by
  obtain ⟨raw, rest, reads, blank, small, rfl⟩ := exists_reads_of_decode read
  have found : shape.ofJson raw = some a := by rw [← toOption_decode reads blank small, h]; rfl
  exact ⟨shape.ofJson_sorted found, raw.sorted_sorted⟩

/-- What is written is decoded to what it stands for. -/
theorem Shape.decode_write {json : Json} {a : α} (integral : json.integral = true) (small : json.depth ≤ depthLimit)
    (h : shape.ofJson json = some a) : shape.decode json.render.toList = .ok a := by
  have reads := (written integral).2 [] endsNumeral_nil
  rw [List.append_nil] at reads
  have decoded : (shape.decode json.write).toOption = some a := (toOption_decode reads rfl small).trans h
  rw [Json.render, String.toList_ofList]
  cases run : shape.decode json.write with
  | error fault => rw [run] at decoded; cases decoded
  | ok b => rw [run] at decoded; exact congrArg Except.ok (Option.some.inj decoded)

namespace Shape.Normal

/-- A value in normal form is decoded from its text with the fields in order. -/
theorem decode_render (lawful : shape.Lawful) {a : α} (h : shape.Normal a) :
    shape.decode (shape.render a).toList = .ok a :=
  decode_write h.integral h.depth_le (shape.ofJson_encode lawful a h.proper)

/-- A value in normal form is decoded from the text that is posted. -/
theorem decode_document (lawful : shape.Lawful) {a : α} (h : shape.Normal a) :
    shape.decode (shape.document a).render.toList = .ok a :=
  decode_write (integral_sorted h.integral) (Nat.le_trans (depth_sorted_le _) h.depth_le)
    (shape.ofJson_sorted (shape.ofJson_encode lawful a h.proper))

/-- What is decoded is in normal form if its numbers are integers. -/
theorem of_decode (lawful : shape.Lawful) (low : shape.height ≤ depthLimit) {s : List Char} {a : α}
    (h : shape.decode s = .ok a) (integral : (shape.encode a).integral = true) : shape.Normal a := by
  unfold decode at h
  split at h
  · cases h
  · next b rest run =>
    split at h
    · cases h
      have decoded := shape.yields_reader lawful depthLimit run
      exact ⟨decoded.proper, integral, Nat.le_trans decoded.depth_le (Nat.max_le.2 ⟨Nat.le_refl _, low⟩)⟩
    · cases h

/-- The same of a text whose own numbers are integers. -/
theorem of_decode_integral (lawful : shape.Lawful) (low : shape.height ≤ depthLimit) {s : List Char}
    {json : Json} {a : α} (read : Shape.json.decode s = .ok json)
    (integral : json.integral = true) (h : shape.decode s = .ok a) :
    shape.Normal a :=
  of_decode lawful low h (shape.integral_encode lawful (ofJson_of_decode read h).1 integral)

end Shape.Normal

end EntitlementClient.Schema
