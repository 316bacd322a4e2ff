/-
Addresses are read back from their written form: the marks that keep its parts apart are found where
they were put, because nothing that is escaped holds one.
-/
import EntitlementClient.Proofs.Text.Lines
import EntitlementClient.Proofs.Text.Percent
import EntitlementClient.Route.Address

namespace EntitlementClient

open EntitlementClient.Text

/-! ## Readers -/

/-- The texts that written texts stand for. -/
def Text.Percent.decodeAll? : List (List Char) → Option (List String)
  | [] => some []
  | s :: rest => do
    let text ← decode? s
    let texts ← decodeAll? rest
    return text :: texts

namespace Parameter

/-- The parameter of a written form: a name, and values with commas between them. -/
def read? (s : List Char) : Option Parameter :=
  match splitWhere (· == '=') s with
  | [name, values] => do
    let name ← Percent.decode? name
    let values ← Percent.decodeAll? (splitWhere (· == ',') values)
    return ⟨name, values⟩
  | _ => none

/-- The parameters of written forms. -/
def readAll? : List (List Char) → Option (List Parameter)
  | [] => some []
  | s :: rest => do
    let parameter ← read? s
    let parameters ← readAll? rest
    return parameter :: parameters

end Parameter

/-- The parameters of a written query; it does not matter whether there is a separator after the
last of them. -/
def Query.read? (s : List Char) : Option (List Parameter) :=
  Parameter.readAll? ((splitWhere (· == '&') s).filter fun piece => !piece.isEmpty)

/-- The segments of a written path. -/
def Address.readPath? (s : List Char) : Option (List String) :=
  match splitWhere (· == '/') s with
  | [] :: segments => Percent.decodeAll? segments
  | _ => none

/-- The segments and the parameters of a written address. -/
def Address.read? (s : List Char) : Option (List String × Option (List Parameter)) :=
  match splitWhere (· == '?') s with
  | [path] => do
    let segments ← readPath? path
    return (segments, none)
  | [path, query] => do
    let segments ← readPath? path
    let parameters ← Query.read? query
    return (segments, some parameters)
  | _ => none

/-! ## Parts without separators -/

namespace Text.Percent

@[simp] theorem decodeAll?_encode : ∀ texts : List String, decodeAll? (texts.map encode) = some texts
  | [] => rfl
  | s :: texts => by
    rw [List.map_cons, decodeAll?, decode?_encode, decodeAll?_encode texts]
    rfl

/-- Nothing that is escaped holds a separator. -/
theorem encode_ne {sep : Char} (h : sep ∈ separators) (s : String) : ∀ c ∈ encode s, (c == sep) = false := by
  intro c hc
  refine beq_false_of_ne ?_
  rintro rfl
  exact encode_not_separator s c hc h

theorem map_encode_ne {sep : Char} (h : sep ∈ separators) (texts : List String) :
    ∀ s ∈ texts.map encode, ∀ c ∈ s, (c == sep) = false := by
  intro s hs
  obtain ⟨text, -, rfl⟩ := List.mem_map.1 hs
  exact encode_ne h text

end Text.Percent

namespace Parameter

/-- Of the separators only those between its own parts stand in a parameter. -/
theorem text_ne {sep : Char} (h : sep ∈ Percent.separators) (he : '=' ≠ sep) (hc : ',' ≠ sep) (parameter : Parameter) :
    ∀ c ∈ parameter.text, (c == sep) = false := by
  intro c hm
  rcases List.mem_append.1 hm with hm | hm
  · exact Percent.encode_ne h _ c hm
  rcases List.mem_cons.1 hm with rfl | hm
  · exact beq_false_of_ne he
  · exact forall_mem_intercalate (P := fun c => (c == sep) = false) (beq_false_of_ne hc)
      (Percent.map_encode_ne h _) c hm

theorem map_text_ne {sep : Char} (h : ∀ p : Parameter, ∀ c ∈ p.text, (c == sep) = false)
    (parameters : List Parameter) : ∀ s ∈ parameters.map text, ∀ c ∈ s, (c == sep) = false := by
  intro s hs
  obtain ⟨parameter, -, rfl⟩ := List.mem_map.1 hs
  exact h parameter

theorem text_ne_nil (parameter : Parameter) : parameter.text ≠ [] := by
  unfold text
  simp

/-! ## Parameters -/

/-- A parameter with a value is read back. -/
theorem read?_text {parameter : Parameter} (h : parameter.values ≠ []) : read? parameter.text = some parameter := by
  have hv : splitWhere (· == ',') (List.intercalate [','] (parameter.values.map Percent.encode)) =
      parameter.values.map Percent.encode := by
    exact splitWhere_intercalate rfl (by simpa using h) (Percent.map_encode_ne (by decide) _)
  have hs : splitWhere (· == '=') parameter.text =
      [Percent.encode parameter.name, List.intercalate [','] (parameter.values.map Percent.encode)] := by
    unfold text
    rw [splitWhere_append_cons rfl _ (Percent.encode_ne (by decide) _), splitWhere_of_none]
    exact forall_mem_intercalate (by decide) (Percent.map_encode_ne (by decide) _)
  unfold read?
  rw [hs]
  simp only [hv, Percent.decode?_encode, Percent.decodeAll?_encode]
  rfl

theorem readAll?_text : ∀ {parameters : List Parameter}, (∀ p ∈ parameters, p.values ≠ []) →
    readAll? (parameters.map text) = some parameters
  | [], _ => rfl
  | p :: parameters, h => by
    rw [List.map_cons, readAll?, read?_text (h p List.mem_cons_self),
      readAll?_text fun q hq => h q (List.mem_cons_of_mem p hq)]
    rfl

end Parameter

/-! ## Queries -/

namespace Query

theorem filter_text (parameters : List Parameter) :
    (parameters.map Parameter.text).filter (fun piece => !piece.isEmpty) = parameters.map Parameter.text := by
  rw [List.filter_eq_self]
  intro s hs
  obtain ⟨parameter, -, rfl⟩ := List.mem_map.1 hs
  simpa using parameter.text_ne_nil

/-- A query is read back, however its parameters are kept apart. -/
theorem read?_text {query : Query} (h : ∀ p ∈ query.parameters, p.values ≠ []) :
    read? query.text = some query.parameters := by
  have hp : ∀ p : Parameter, ∀ c ∈ p.text, (c == '&') = false :=
    Parameter.text_ne (by decide) (by decide) (by decide)
  have hs : (splitWhere (· == '&') query.text).filter (fun piece => !piece.isEmpty) =
      query.parameters.map Parameter.text := by
    obtain ⟨parameters, separation⟩ := query
    rcases separation with _ | _
    · by_cases he : parameters = []
      · subst he; rfl
      · show (splitWhere _ (List.intercalate ['&'] (parameters.map Parameter.text))).filter _ = _
        rw [splitWhere_intercalate rfl (by simpa using he) (Parameter.map_text_ne hp _), filter_text]
    · show (splitWhere _ (parameters.flatMap fun p => p.text ++ ['&'])).filter _ = _
      rw [splitWhere_flatMap_after rfl fun p _ => hp p, List.filter_append, filter_text]
      simp
  unfold read?
  rw [hs, Parameter.readAll?_text h]

theorem text_ne {query : Query} : ∀ c ∈ query.text, (c == '?') = false := by
  have hp : ∀ p : Parameter, ∀ c ∈ p.text, (c == '?') = false :=
    Parameter.text_ne (by decide) (by decide) (by decide)
  obtain ⟨parameters, separation⟩ := query
  rcases separation with _ | _
  · exact forall_mem_intercalate (by decide) (Parameter.map_text_ne hp _)
  · intro c hc
    obtain ⟨parameter, -, hm⟩ := List.mem_flatMap.1 hc
    rcases List.mem_append.1 hm with hm | hm
    · exact hp parameter c hm
    · rw [List.mem_singleton.1 hm]; rfl

end Query

/-! ## Addresses -/

namespace Address

theorem readPath?_pathText (address : Address) : readPath? address.pathText = some address.segments := by
  have hs : splitWhere (· == '/') address.pathText = [] :: address.segments.map Percent.encode := by
    rw [← List.nil_append address.pathText]
    exact splitWhere_append_flatMap rfl (by simp) fun segment _ => Percent.encode_ne (by decide) segment
  unfold readPath?
  rw [hs]
  exact Percent.decodeAll?_encode address.segments

theorem pathText_ne (address : Address) : ∀ c ∈ address.pathText, (c == '?') = false := by
  intro c hc
  obtain ⟨segment, -, hm⟩ := List.mem_flatMap.1 hc
  rcases List.mem_cons.1 hm with rfl | hm
  · rfl
  · exact Percent.encode_ne (by decide) segment c hm

/-- The segments and the parameters of an address are read back. -/
theorem read?_text {address : Address} (h : ∀ query ∈ address.query, ∀ p ∈ query.parameters, p.values ≠ []) :
    read? address.text = some (address.segments, address.query.map (·.parameters)) := by
  unfold read? text queryText
  rcases hq : address.query with _ | query
  · rw [List.append_nil, splitWhere_of_none address.pathText_ne]
    simp only [readPath?_pathText]
    rfl
  · rw [splitWhere_append_cons rfl _ address.pathText_ne, splitWhere_of_none query.text_ne]
    simp only [readPath?_pathText, Query.read?_text (h query hq)]
    rfl

end Address

end EntitlementClient
