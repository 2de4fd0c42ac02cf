import MarkupPad.Json.Parser
import MarkupPad.Proofs.Json.Printer

/-!
# From the tokens of a value to the value

A value is read where one is expected, and then what follows a value is expected, with the same
arrays and objects open.  So a value that is written is read again.

    read? json.tokens = some json                                                (read?_tokens)
    json.IsWritten → parse? (ofText json.pretty) = some json                    (parse?_pretty)
-/

namespace MarkupPad.Json

namespace ParseState

/-- The tokens of one part and of those after it. -/
theorem intercalate_comma_cons_cons (part part' : List Token) (parts : List (List Token)) :
    [Token.comma].intercalate (part :: part' :: parts) =
      part ++ Token.comma :: [Token.comma].intercalate (part' :: parts) := by
  simp [List.intercalate_cons_cons]

/-- No value begins with the end of an array, so the first item of an array is read like every
other. -/
theorem foldlM_firstItem (item : Json) (items : List Json) (stack : List Frame)
    (rest : List Token) :
    ([Token.comma].intercalate (itemTokens (item :: items)) ++ rest).foldlM step?
        ⟨.firstItem, stack⟩ =
      ([Token.comma].intercalate (itemTokens (item :: items)) ++ rest).foldlM step?
        ⟨.value, .array [] :: stack⟩ := by
  cases items with
  | nil =>
    rw [itemTokens, itemTokens, List.intercalate_singleton]
    cases item <;> rfl
  | cons item' items =>
    rw [itemTokens, itemTokens, intercalate_comma_cons_cons]
    cases item <;> rfl

/-- The first key of an object is read like every other. -/
theorem foldlM_firstKey (field : Option Text × Json) (fields : List (Option Text × Json))
    (stack : List Frame) (rest : List Token) :
    ([Token.comma].intercalate (fieldTokens (field :: fields)) ++ rest).foldlM step?
        ⟨.firstKey, stack⟩ =
      ([Token.comma].intercalate (fieldTokens (field :: fields)) ++ rest).foldlM step?
        ⟨.key [], stack⟩ := by
  cases fields with
  | nil =>
    rw [fieldTokens, fieldTokens, List.intercalate_singleton]
    rfl
  | cons field' fields =>
    rw [fieldTokens, fieldTokens, intercalate_comma_cons_cons]
    rfl

mutual

/-- **A value is read where one is expected.** -/
theorem foldlM_tokens (json : Json) (stack : List Frame) :
    json.tokens.foldlM step? ⟨.value, stack⟩ = some ⟨.after json, stack⟩ := by
  match json with
  | .null | .bool _ | .number _ | .string _ => rfl
  | .array [] => rfl
  | .array (item :: items) =>
    have hitems := foldlM_items (item :: items) (List.cons_ne_nil _ _) [] stack
    rw [← foldlM_firstItem] at hitems
    exact hitems
  | .object [] => rfl
  | .object (field :: fields) =>
    have hfields := foldlM_fields (field :: fields) (List.cons_ne_nil _ _) [] stack
    rw [← foldlM_firstKey] at hfields
    exact hfields

/-- The items of an array are read one after the other. -/
theorem foldlM_items (items : List Json) (hne : items ≠ []) (done : List Json)
    (stack : List Frame) :
    ([Token.comma].intercalate (itemTokens items) ++ [Token.closeArray]).foldlM step?
        ⟨.value, .array done :: stack⟩ =
      some ⟨.after (.array (done.reverse ++ items)), stack⟩ := by
  match items with
  | [] => exact absurd rfl hne
  | [item] =>
    have hitem := foldlM_tokens item (.array done :: stack)
    simp [itemTokens, hitem, step?]
  | item :: item' :: items =>
    have hitem := foldlM_tokens item (.array done :: stack)
    have hitems := foldlM_items (item' :: items) (List.cons_ne_nil _ _) (item :: done) stack
    rw [itemTokens] at hitems
    rw [itemTokens, itemTokens, intercalate_comma_cons_cons, List.append_assoc,
      List.foldlM_append, hitem]
    simpa [step?] using hitems

/-- The fields of an object are read one after the other. -/
theorem foldlM_fields (fields : List (Option Text × Json)) (hne : fields ≠ [])
    (done : List (Option Text × Json)) (stack : List Frame) :
    ([Token.comma].intercalate (fieldTokens fields) ++ [Token.closeObject]).foldlM step?
        ⟨.key done, stack⟩ =
      some ⟨.after (.object (done.reverse ++ fields)), stack⟩ := by
  match fields with
  | [] => exact absurd rfl hne
  | [(key, value)] =>
    have hvalue := foldlM_tokens value (.object done key :: stack)
    simp [fieldTokens, hvalue, step?, beginKey?]
  | (key, value) :: (key', value') :: fields =>
    have hvalue := foldlM_tokens value (.object done key :: stack)
    have hfields := foldlM_fields ((key', value') :: fields) (List.cons_ne_nil _ _)
      ((key, value) :: done) stack
    rw [fieldTokens] at hfields
    rw [fieldTokens, fieldTokens, intercalate_comma_cons_cons, List.append_assoc,
      List.foldlM_append]
    simpa [hvalue, step?, beginKey?] using hfields

end

end ParseState

/-- **The tokens of a value are read as the value.** -/
theorem read?_tokens (json : Json) : read? json.tokens = some json := by
  rw [read?, ParseState.start, ParseState.foldlM_tokens]
  rfl

/-- **What is written for a value is read as the value.** -/
theorem parse?_pretty {json : Json} (h : json.IsWritten) :
    parse? (.ofText json.pretty) = some json := by
  rw [parse?, all?_pretty h]
  exact read?_tokens json

end MarkupPad.Json
