import MarkupPad.Proofs.Json.Token
import MarkupPad.Proofs.Text.Split

/-!
# The tokens of what is written

A text stands for tokens when it is read as them wherever it ends an atom.  Marks and blanks may
be put before such a text, and two such texts may follow each other where the second does not
make an atom longer; from these steps the text of a value is built.

    json.IsWritten → Stands (json.prettyAt level) json.tokens                (stands_prettyAt)
    json.IsWritten → Token.all? (ofText json.pretty) = some json.tokens          (all?_pretty)
-/

namespace MarkupPad.Json

open Text

namespace Token

/-! ## Texts that stand for tokens -/

/-- Wherever it ends an atom, the text is read as the tokens. -/
def Stands (t : Text) (tokens : List Token) : Prop :=
  ∀ rest, Separated rest → all? (.ofText t ++ rest) = (all? rest).map (tokens ++ ·)

variable {t u : Text} {tokens tokens' : List Token} {c : Char}

theorem Stands.nil : Stands [] [] := fun rest _ => by
  cases hrest : all? rest <;> simp [Symbols.ofText, hrest]

theorem Stands.blank (hc : isBlank c) (h : Stands t tokens) : Stands (c :: t) tokens :=
  fun rest hrest => (all?_blank hc _).trans (h rest hrest)

theorem Stands.newLine (level : Nat) (h : Stands t tokens) :
    Stands (newLine level ++ t) tokens := by
  have hindented : ∀ n, Stands (List.replicate n ' ' ++ t) tokens := by
    intro n
    induction n with
    | zero => exact h
    | succ n ih => exact ih.blank rfl
  exact (hindented (2 * level)).blank rfl

theorem Stands.mark {token : Token} (hc : mark? c = some token) (h : Stands t tokens) :
    Stands (c :: t) (token :: tokens) := by
  intro rest hrest
  have hfirst : first? (some c :: (Symbols.ofText t ++ rest)) =
      some (token, Symbols.ofText t ++ rest) := by
    simp [first?, hc]
  have hall := all?_of_first? hfirst
  rw [h rest hrest, Option.map_map] at hall
  exact hall

/-- An atom before something else is read for itself. -/
theorem Stands.append (ht : Stands t tokens) (hu : Stands (c :: u) tokens')
    (hc : separates c) : Stands (t ++ c :: u) (tokens ++ tokens') := by
  intro rest hrest
  have hseparated : Separated (.ofText (c :: u) ++ rest) := by
    intro d hd
    cases hd
    exact hc
  rw [Symbols.ofText_append, List.append_assoc, ht _ hseparated, hu rest hrest, Option.map_map]
  simp only [Function.comp_def, List.append_assoc]

theorem stands_atom {value : Json}
    (h : ∀ rest, Separated rest → first? (.ofText t ++ rest) = some (atom value, rest)) :
    Stands t [atom value] :=
  fun rest hrest => all?_of_first? (h rest hrest)

end Token

/-! ## Values -/

mutual

/-- The tokens of a value. -/
def tokens : Json → List Token
  | array items => .openArray :: [Token.comma].intercalate (itemTokens items) ++ [.closeArray]
  | object fields => .openObject :: [Token.comma].intercalate (fieldTokens fields) ++ [.closeObject]
  | value => [.atom value]

/-- The tokens of the items of an array. -/
def itemTokens : List Json → List (List Token)
  | [] => []
  | item :: items => item.tokens :: itemTokens items

/-- The tokens of the fields of an object. -/
def fieldTokens : List (Option Text × Json) → List (List Token)
  | [] => []
  | (key, value) :: fields =>
    (.atom (string key) :: .colon :: value.tokens) :: fieldTokens fields

end

/-- A value that can be written: its strings are readable and its literals are those of
numbers. -/
inductive IsWritten : Json → Prop
  | null : IsWritten null
  | bool (b : Bool) : IsWritten (bool b)
  | number {l : Literal} (h : l.IsWritten) : IsWritten (number l.text)
  | text (t : Text) : IsWritten (text t)
  | array {items : List Json} (h : ∀ item ∈ items, IsWritten item) : IsWritten (array items)
  | object {fields : List (Option Text × Json)} (hkeys : ∀ field ∈ fields, field.1.isSome)
      (hvalues : ∀ field ∈ fields, IsWritten field.2) : IsWritten (object fields)

namespace Token

variable {entries : List Text} {entryTokens : List (List Token)}

/-- Entries on lines of their own stand for their tokens with commas between them. -/
theorem stands_join (h : List.Forall₂ Stands entries entryTokens) (hne : entries ≠ [])
    (level outer : Nat) {closing : Char} {close : Token} (hclosing : mark? closing = some close) :
    Stands (join (',' :: newLine level) entries ++ (newLine outer ++ [closing]))
      ([Token.comma].intercalate entryTokens ++ [close]) := by
  have hend : Stands (newLine outer ++ [closing]) [close] :=
    (Stands.nil.mark hclosing).newLine outer
  induction h with
  | nil => exact absurd rfl hne
  | @cons t tokens entries entryTokens ht h ih =>
    cases h with
    | nil =>
      rw [join_singleton, List.intercalate_singleton]
      exact ht.append hend rfl
    | @cons u tokens' entries entryTokens hu h =>
      have hrest := ih (List.cons_ne_nil _ _)
      have hcomma := (hrest.newLine level).mark (c := ',') rfl
      simpa [List.intercalate_cons_cons] using ht.append hcomma rfl

/-- Entries between brackets stand for their tokens between the brackets. -/
theorem stands_block (h : List.Forall₂ Stands entries entryTokens) (level : Nat)
    {opening closing : Char} {opened closed : Token} (hopening : mark? opening = some opened)
    (hclosing : mark? closing = some closed) :
    Stands (block level opening closing entries)
      (opened :: [Token.comma].intercalate entryTokens ++ [closed]) := by
  unfold block
  split
  · next hempty =>
    subst hempty
    cases h
    exact (Stands.nil.mark hclosing).mark hopening
  · next hne =>
    have hentries := stands_join h hne (level + 1) level hclosing
    simpa using (hentries.newLine (level + 1)).mark hopening

end Token

open Json.Token

/-- What is written for a value is read as the tokens of the value. -/
theorem stands_prettyAt {json : Json} (h : json.IsWritten) (level : Nat) :
    Stands (json.prettyAt level) json.tokens := by
  induction h generalizing level with
  | null => exact stands_atom fun rest => first?_word "null".toList rfl
  | bool b =>
    cases b with
    | false => exact stands_atom fun rest => first?_word "false".toList rfl
    | true => exact stands_atom fun rest => first?_word "true".toList rfl
  | number h => exact stands_atom fun rest => first?_number h
  | text t => exact stands_atom fun rest _ => first?_quote t rest
  | @array items h ih =>
    have hitems : List.Forall₂ Stands (prettyItems (level + 1) items) (itemTokens items) := by
      clear h
      induction items with
      | nil => exact .nil
      | cons item items ihitems =>
        rw [List.forall_mem_cons] at ih
        exact .cons (ih.1 (level + 1)) (ihitems ih.2)
    exact stands_block hitems level rfl rfl
  | @object fields hkeys hvalues ih =>
    have hfields : List.Forall₂ Stands (prettyFields (level + 1) fields) (fieldTokens fields) := by
      clear hvalues
      induction fields with
      | nil => exact .nil
      | cons field fields ihfields =>
        rw [List.forall_mem_cons] at ih hkeys
        obtain ⟨key, value⟩ := field
        obtain ⟨key, rfl⟩ := Option.isSome_iff_exists.1 hkeys.1
        refine .cons ?_ (ihfields hkeys.2 ih.2)
        have hkey : Stands (quote key) [atom (text key)] :=
          stands_atom fun rest _ => first?_quote key rest
        exact hkey.append (((ih.1 (level + 1)).blank (c := ' ') rfl).mark (c := ':') rfl) rfl
    exact stands_block hfields level rfl rfl

/-- **The text of a value is read as the tokens of the value.** -/
theorem all?_pretty {json : Json} (h : json.IsWritten) :
    Token.all? (.ofText json.pretty) = some json.tokens := by
  have hall := stands_prettyAt h 0 [] fun _ hc => nomatch hc
  rw [List.append_nil, all?_nil, Option.map_some, List.append_nil] at hall
  exact hall

end MarkupPad.Json
