import MarkupPad.Proofs.Element.Renaming

/-!
# Trees of elements

Markup that is written out from a tree is balanced, so the scan for a closing tag passes over
whole trees and ends at the closing tag of the element it began in.  An element of a tree is
given by its site: all that stands around it.

    (tag, children) ∈ f.elements ↔ ∃ p, p.fill tag children = f                  (mem_elements_iff)
    closingFrom? name start pos depth (f.render ++ t) =
      closingFrom? name start (pos + size f.render) depth t                      (closingFrom?_render)
    (p.fill tag children).render = p.retyped tag children tag.opening              (render_fill)
    rename? (p.fill tag children).render (p.retyped tag children b) caret =
      some (p.fill (tag.rename b) children).render                                 (rename?_retyped)
-/

namespace MarkupPad.Element

open Text

/-! ## Trees -/

/-- The two tags of an element.  The name in the closing tag may be spelled in another case,
and both are empty while a name is being typed anew. -/
structure Tag where
  opening : Text
  closing : Text
  /-- All that stands between the name and the `>` of the opening tag. -/
  attributes : Text
  isName : ∀ c ∈ opening, isNameChar c
  same : Same closing opening
  isSpaced : ∀ c ∈ attributes.head?, isAsciiBlank c
  isPlain : ∀ c ∈ attributes, c ≠ '<' ∧ c ≠ '>'

/-- Elements and texts side by side, each element with its children. -/
inductive Forest where
  | nil
  | text (t : Text) (h : '<' ∉ t) (rest : Forest)
  | element (tag : Tag) (children rest : Forest)

/-- The site of one element in a forest. -/
inductive Site where
  /-- Before all that follows it. -/
  | here (rest : Forest)
  | afterText (t : Text) (h : '<' ∉ t) (site : Site)
  | afterElement (tag : Tag) (children : Forest) (site : Site)
  /-- Among the children of an element. -/
  | inside (tag : Tag) (site : Site) (rest : Forest)

/-! ## Algorithm -/

/-- The opening tag with another name in it. -/
def Tag.opened (tag : Tag) (name : Text) : Text := '<' :: (name ++ tag.attributes ++ ['>'])

/-- The closing tag. -/
def Tag.closed (tag : Tag) : Text := ['<', '/'] ++ tag.closing ++ ['>']

/-- Another name in both tags. -/
def Tag.rename (tag : Tag) (name : Text) (h : ∀ c ∈ name, isNameChar c) : Tag :=
  { tag with opening := name, closing := name, isName := h, same := .refl name }

/-- The markup of a forest. -/
def Forest.render : Forest → Text
  | nil => []
  | text t _ rest => t ++ rest.render
  | element tag children rest =>
    tag.opened tag.opening ++ children.render ++ tag.closed ++ rest.render

/-- All elements of a forest at any depth, each with its children. -/
def Forest.elements : Forest → List (Tag × Forest)
  | nil => []
  | text _ _ rest => rest.elements
  | element tag children rest => (tag, children) :: (children.elements ++ rest.elements)

namespace Site

/-- The forest with an element at the site. -/
def fill (tag : Tag) (children : Forest) : Site → Forest
  | here rest => .element tag children rest
  | afterText t h site => .text t h (site.fill tag children)
  | afterElement tag' children' site => .element tag' children' (site.fill tag children)
  | inside tag' site rest => .element tag' (site.fill tag children) rest

/-- The markup before the site. -/
def before : Site → Text
  | here _ => []
  | afterText t _ site => t ++ site.before
  | afterElement tag children site =>
    tag.opened tag.opening ++ children.render ++ tag.closed ++ site.before
  | inside tag site _ => tag.opened tag.opening ++ site.before

/-- The markup after the site. -/
def after : Site → Text
  | here rest => rest.render
  | afterText _ _ site => site.after
  | afterElement _ _ site => site.after
  | inside tag site rest => site.after ++ tag.closed ++ rest.render

/-- The markup where the opening tag at the site has another name, and nothing else has
changed. -/
def retyped (p : Site) (tag : Tag) (children : Forest) (name : Text) : Text :=
  p.before ++ tag.opened name ++ children.render ++ tag.closed ++ p.after

/-- The offset behind a part of the name in the opening tag at the site. -/
def caret (p : Site) (typed : Text) : Nat := size (p.before ++ '<' :: typed)

/-- **Every element of a forest has a site.** -/
theorem mem_elements_iff {f : Forest} {tag : Tag} {children : Forest} :
    (tag, children) ∈ f.elements ↔ ∃ p : Site, p.fill tag children = f := by
  constructor
  · intro h
    induction f with
    | nil => simp [Forest.elements] at h
    | text t ht rest ih =>
      obtain ⟨p, rfl⟩ := ih h
      exact ⟨.afterText t ht p, rfl⟩
    | element tag' children' rest ihc ihr =>
      rcases List.mem_cons.1 h with h | h
      · cases h
        exact ⟨.here rest, rfl⟩
      · rcases List.mem_append.1 h with h | h
        · obtain ⟨p, rfl⟩ := ihc h
          exact ⟨.inside tag' p rest, rfl⟩
        · obtain ⟨p, rfl⟩ := ihr h
          exact ⟨.afterElement tag' children' p, rfl⟩
  · rintro ⟨p, rfl⟩
    induction p with
    | here rest => simp [fill, Forest.elements]
    | afterText t ht p ih => exact ih
    | afterElement tag' children' p ih => simp [fill, Forest.elements, ih]
    | inside tag' p rest ih => simp [fill, Forest.elements, ih]

/-- **The markup of a tree is the element at a site with what stands around it.** -/
theorem render_fill (p : Site) (tag : Tag) (children : Forest) :
    (p.fill tag children).render = p.retyped tag children tag.opening := by
  induction p with
  | here rest => rfl
  | afterText t h p ih => simp [fill, Forest.render, ih, retyped, before, after]
  | afterElement tag' children' p ih => simp [fill, Forest.render, ih, retyped, before, after]
  | inside tag' p rest ih => simp [fill, Forest.render, ih, retyped, before, after]

/-- The text where the tag has been retyped, cut behind a part of the name. -/
theorem retyped_append (p : Site) (tag : Tag) (children : Forest) (l r : Text) :
    p.retyped tag children (l ++ r) = (p.before ++ '<' :: l) ++
      (r ++ (tag.attributes ++ '>' :: (children.render ++ tag.closed ++ p.after))) := by
  simp [retyped, Tag.opened]

end Site

/-! ## Names of tags -/

theorem isNameChar_toLower_ascii :
    ∀ n, n < 128 → isNameChar (Char.ofNat n).toLower = isNameChar (Char.ofNat n) := by
  decide +kernel

theorem isNameChar_toLower (c : Char) : isNameChar c.toLower = isNameChar c := by
  by_cases hc : c.toNat < 128
  · have h := isNameChar_toLower_ascii c.toNat hc
    rwa [Char.ofNat_toNat] at h
  · rw [toLower_of_not_ascii hc]

/-- Spellings of a name are names. -/
theorem isNameChar_of_same {a b : Text} (h : Same a b) (hb : ∀ c ∈ b, isNameChar c) :
    ∀ c ∈ a, isNameChar c := by
  intro c hc
  have hm : c.toLower ∈ asciiLower b := by
    rw [← h]
    exact List.mem_map_of_mem hc
  obtain ⟨d, hd, he⟩ := List.mem_map.1 hm
  rw [← isNameChar_toLower, ← he, isNameChar_toLower]
  exact hb d hd

/-- What ends the name in a tag is no letter of it. -/
theorem not_isNameChar_of_ends {t : Text} (h : ∀ c ∈ t.head?, c = '>' ∨ isAsciiBlank c) :
    ¬ t.head?.any isNameChar := by
  cases t with
  | nil => simp
  | cons c t =>
    show isNameChar c ≠ true
    have hc := h c rfl
    simp only [isAsciiBlank, Bool.or_eq_true, decide_eq_true_eq] at hc
    rcases hc with rfl | (((rfl | rfl) | rfl) | rfl) | rfl
    · decide
    · decide
    · decide
    · decide
    · decide
    · decide

/-- Two texts that begin with whole names begin with the same one and go on in the same way. -/
theorem name_append_inj {a b s t : Text} (ha : ∀ c ∈ a, isNameChar c) (hb : ∀ c ∈ b, isNameChar c)
    (hs : ¬ s.head?.any isNameChar) (ht : ¬ t.head?.any isNameChar) (h : a ++ s = b ++ t) : a = b ∧ s = t := by
  have h1 := takeWhile_name ha hs
  rw [h, (takeWhile_name hb ht).1, (takeWhile_name hb ht).2] at h1
  exact ⟨h1.1.symm, h1.2.symm⟩

/-- No closing tag opens an element. -/
theorem not_opens_slash (hname : ∀ c ∈ name, isNameChar c) (t : Text) :
    ¬ opens name ('/' :: t) := by
  intro h
  obtain ⟨typed, r, ht, hs, hr⟩ := opens_iff.1 h
  cases typed with
  | nil =>
    rw [List.nil_append] at ht
    have hc := hr '/' (by rw [← ht]; rfl)
    revert hc
    decide
  | cons c typed =>
    rw [List.cons_append, List.cons.injEq] at ht
    have hc := isNameChar_of_same hs hname c List.mem_cons_self
    rw [← ht.1] at hc
    revert hc
    decide

namespace Tag

variable (tag : Tag)

theorem isName_closing : ∀ c ∈ tag.closing, isNameChar c := isNameChar_of_same tag.same tag.isName

/-- The name in an opening tag ends where its attributes begin. -/
theorem ends_attributes (t : Text) :
    ∀ c ∈ (tag.attributes ++ '>' :: t).head?, c = '>' ∨ isAsciiBlank c := by
  intro c hc
  cases ha : tag.attributes with
  | nil =>
    rw [ha] at hc
    cases hc
    exact .inl rfl
  | cons d r =>
    rw [ha] at hc
    cases hc
    exact .inr (tag.isSpaced c (by rw [ha]; rfl))

variable {tag} {name : Text}

/-- **An opening tag opens an element of its own name** and of no other. -/
theorem opens_opening_iff (hname : ∀ c ∈ name, isNameChar c) (t : Text) :
    opens name (tag.opening ++ (tag.attributes ++ '>' :: t)) ↔ Same tag.opening name := by
  have hends := tag.ends_attributes t
  rw [opens_iff]
  constructor
  · rintro ⟨typed, r, ht, hs, hr⟩
    obtain ⟨rfl, -⟩ := name_append_inj tag.isName (isNameChar_of_same hs hname)
      (not_isNameChar_of_ends hends) (not_isNameChar_of_ends hr) ht
    exact hs
  · intro hs
    exact ⟨tag.opening, _, rfl, hs, hends⟩

/-- An opening tag closes nothing. -/
theorem not_closes_opening (t : Text) :
    ¬ closes name (tag.opening ++ (tag.attributes ++ '>' :: t)) := by
  intro h
  obtain ⟨typed, r, ht, -⟩ := closes_iff.1 h
  -- the slash would be the first letter of the name, or stand right behind an empty one
  cases ho : tag.opening with
  | nil =>
    rw [ho, List.nil_append] at ht
    have hc := tag.ends_attributes t '/' (by rw [ht]; rfl)
    revert hc
    decide
  | cons c o =>
    rw [ho, List.cons_append, List.cons.injEq] at ht
    have hc := tag.isName c (by rw [ho]; exact List.mem_cons_self)
    rw [ht.1] at hc
    revert hc
    decide

/-- **A closing tag closes an element of its own name** and of no other. -/
theorem closes_closing_iff (hname : ∀ c ∈ name, isNameChar c) (t : Text) :
    closes name ('/' :: (tag.closing ++ '>' :: t)) ↔ Same tag.opening name := by
  rw [closes_iff]
  constructor
  · rintro ⟨typed, r, ht, hs⟩
    rw [List.cons.injEq] at ht
    obtain ⟨rfl, -⟩ := name_append_inj tag.isName_closing (isNameChar_of_same hs hname)
      (by simp; decide) (by simp; decide) ht.2
    exact tag.same.symm.trans hs
  · intro hs
    exact ⟨tag.closing, t, rfl, tag.same.trans hs⟩

end Tag

/-! ## The scan over a tree -/

section
variable {name : Text} (hname : ∀ c ∈ name, isNameChar c) {start pos depth : Nat}

/-- Behind its `<` an opening tag holds no other. -/
theorem Tag.not_mem_opened (tag : Tag) {a : Text} (ha : ∀ c ∈ a, isNameChar c) :
    '<' ∉ a ++ tag.attributes ++ ['>'] := by
  have hattr : '<' ∉ tag.attributes := fun h => (tag.isPlain '<' h).1 rfl
  simp [not_mem_of_name ha, hattr]

theorem Tag.not_mem_closed (tag : Tag) : '<' ∉ '/' :: (tag.closing ++ ['>']) := by
  simp [not_mem_of_name tag.isName_closing]

theorem Tag.closed_append (tag : Tag) (t : Text) :
    tag.closed ++ t = '<' :: '/' :: (tag.closing ++ '>' :: t) := by
  simp [Tag.closed]

/-- Behind its `<` a closing tag is passed over. -/
theorem closingFrom?_closed_tail (tag : Tag) (t : Text) :
    closingFrom? name start (pos + '<'.utf8Size) depth ('/' :: (tag.closing ++ '>' :: t)) =
      closingFrom? name start (pos + size tag.closed) depth t := by
  have hsize : size tag.closed = '<'.utf8Size + size ('/' :: (tag.closing ++ ['>'])) := by
    simp [Tag.closed]
  rw [hsize, ← Nat.add_assoc, ← closingFrom?_append_of_not_mem tag.not_mem_closed]
  simp

include hname

/-- An opening tag goes one level deeper if it has the name. -/
theorem closingFrom?_opened (tag : Tag) (t : Text) (h : start < pos) :
    closingFrom? name start pos depth (tag.opened tag.opening ++ t) =
      closingFrom? name start (pos + size (tag.opened tag.opening))
        (if Same tag.opening name then depth + 1 else depth) t := by
  have happ : tag.opened tag.opening ++ t = '<' :: (tag.opening ++ (tag.attributes ++ '>' :: t)) := by
    simp [Tag.opened]
  have hrest (depth : Nat) :
      closingFrom? name start (pos + '<'.utf8Size) depth
        (tag.opening ++ (tag.attributes ++ '>' :: t)) =
      closingFrom? name start (pos + size (tag.opened tag.opening)) depth t := by
    rw [Tag.opened, size_cons, ← Nat.add_assoc,
      ← closingFrom?_append_of_not_mem (tag.not_mem_opened tag.isName)]
    simp
  rw [happ, closingFrom?_cons, if_pos ⟨rfl, h⟩, if_neg (Tag.not_closes_opening t)]
  by_cases hs : Same tag.opening name
  · rw [if_pos ((Tag.opens_opening_iff hname t).2 hs), if_pos hs, hrest]
  · rw [if_neg fun ho => hs ((Tag.opens_opening_iff hname t).1 ho), if_neg hs, hrest]

/-- A closing tag of another name is passed over. -/
theorem closingFrom?_closed_of_not_same (tag : Tag) (t : Text) (h : start < pos)
    (hs : ¬ Same tag.opening name) :
    closingFrom? name start pos depth (tag.closed ++ t) =
      closingFrom? name start (pos + size tag.closed) depth t := by
  rw [tag.closed_append, closingFrom?_cons, if_pos ⟨rfl, h⟩,
    if_neg fun hc => hs ((Tag.closes_closing_iff hname t).1 hc), if_neg (not_opens_slash hname _),
    closingFrom?_closed_tail]

/-- A closing tag of the name comes one level up, or is the one that is sought. -/
theorem closingFrom?_closed_of_same (tag : Tag) (t : Text) (h : start < pos)
    (hs : Same tag.opening name) :
    closingFrom? name start pos depth (tag.closed ++ t) =
      match depth with
      | 0 => some pos
      | inner + 1 => closingFrom? name start (pos + size tag.closed) inner t := by
  rw [tag.closed_append, closingFrom?_cons, if_pos ⟨rfl, h⟩,
    if_pos ((Tag.closes_closing_iff hname t).2 hs)]
  cases depth with
  | zero => rfl
  | succ inner => exact closingFrom?_closed_tail tag t

/-- **The scan passes over a whole tree.** -/
theorem closingFrom?_render (f : Forest) (t : Text) (h : start < pos) :
    closingFrom? name start pos depth (f.render ++ t) =
      closingFrom? name start (pos + size f.render) depth t := by
  induction f generalizing pos depth t with
  | nil => rfl
  | text u hu rest ih =>
    have hpos : start < pos + size u := by omega
    rw [Forest.render, List.append_assoc, closingFrom?_append_of_not_mem hu, ih t hpos, size_append,
      Nat.add_assoc]
  | element tag children rest ihc ihr =>
    have h1 : start < pos + size (tag.opened tag.opening) := by omega
    have h2 : start < pos + size (tag.opened tag.opening) + size children.render := by omega
    have h3 : start < pos + size (tag.opened tag.opening) + size children.render +
        size tag.closed := by omega
    simp only [Forest.render, List.append_assoc, size_append, ← Nat.add_assoc]
    rw [closingFrom?_opened hname tag _ h, ihc _ h1]
    by_cases hs : Same tag.opening name
    · rw [if_pos hs, closingFrom?_closed_of_same hname tag _ h2 hs]
      exact ihr t h3
    · rw [if_neg hs, closingFrom?_closed_of_not_same hname tag _ h2 hs]
      exact ihr t h3

end

/-! ## Renaming an element of a tree -/

section
variable (p : Site) (tag : Tag) (children : Forest)

/-- **The closing tag of an element balances its opening tag**, whatever name is in that. -/
theorem closing?_retyped {name : Text} (hname : ∀ c ∈ name, isNameChar c) :
    closing? (p.retyped tag children name) (size p.before) tag.opening =
      some (size (p.before ++ tag.opened name ++ children.render)) := by
  have hcut : p.retyped tag children name = (p.before ++ ['<']) ++
      ((name ++ tag.attributes ++ ['>']) ++ (children.render ++ (tag.closed ++ p.after))) := by
    simp [Site.retyped, Tag.opened]
  have hstart : 0 + size (p.before ++ ['<']) ≤ size p.before + 1 := by simp
  have hpos : size p.before < 0 + size (p.before ++ ['<']) +
      size (name ++ tag.attributes ++ ['>']) := by
    simp
    omega
  have hpos' : size p.before < 0 + size (p.before ++ ['<']) +
      size (name ++ tag.attributes ++ ['>']) + size children.render := by omega
  rw [closing?, hcut, closingFrom?_append_of_le hstart,
    closingFrom?_append_of_not_mem (tag.not_mem_opened hname),
    closingFrom?_render tag.isName children _ hpos,
    closingFrom?_closed_of_same tag.isName tag _ hpos' (.refl _)]
  simp [Tag.opened]
  omega

/-- The tag of an element has been ended. -/
theorem isEnded_attributes (t : Text) : isEnded (tag.attributes ++ '>' :: t) := by
  have hnone : tag.attributes.find? (fun c => c = '<' || c = '>') = none := by
    rw [List.find?_eq_none]
    intro c hc
    simpa using tag.isPlain c hc
  simp [isEnded, List.find?_append, hnone]

section
variable {l r : Text} (hname : ∀ c ∈ l ++ r, isNameChar c)

include hname

/-- Typing another name is seen as a change of name. -/
theorem nameChange?_retyped (hne : tag.opening.length ≠ (l ++ r).length) :
    nameChange? (p.fill tag children).render (p.retyped tag children (l ++ r)) (p.caret l) =
      some (p.before ++ ['<'], tag.opening, l ++ r,
        tag.attributes ++ '>' :: (children.render ++ tag.closed ++ p.after)) := by
  have hcut (name : Text) : p.retyped tag children name = p.before ++ ['<'] ++
      (name ++ (tag.attributes ++ '>' :: (children.render ++ tag.closed ++ p.after))) := by
    simp [Site.retyped, Tag.opened]
  have hcaret : p.caret l = size (p.before ++ ['<'] ++ l) := by simp [Site.caret]
  rw [Site.render_fill, hcut, hcut, hcaret]
  exact nameChange?_append List.getLast?_concat tag.isName hname
    (not_isNameChar_of_ends (tag.ends_attributes _)) hne (isEnded_attributes tag _)

omit hname in
/-- The name in the closing tag stands two bytes behind the children. -/
theorem cut_closing (name : Text) :
    (p.retyped tag children name).before?
        (size (p.before ++ tag.opened name ++ children.render) + 2) =
      some (p.before ++ tag.opened name ++ children.render ++ ['<', '/']) ∧
    (p.retyped tag children name).after?
        (size (p.before ++ tag.opened name ++ children.render) + 2 + size tag.opening) =
      some (['>'] ++ p.after) := by
  constructor
  · exact before?_eq_some_iff.2 ⟨tag.closing ++ ['>'] ++ p.after,
      by simp [Site.retyped, Tag.closed], by simp [Nat.add_assoc]⟩
  · have hsize := tag.same.size_eq
    refine after?_eq_some_iff.2
      ⟨p.before ++ tag.opened name ++ children.render ++ ['<', '/'] ++ tag.closing, ?_, ?_⟩
    · simp [Site.retyped, Tag.closed]
    · simp [hsize]
      omega

/-- **Renaming the opening tag of an element renames the element in its tree.** -/
theorem rename?_retyped (hne : tag.opening.length ≠ (l ++ r).length) :
    rename? (p.fill tag children).render (p.retyped tag children (l ++ r)) (p.caret l) =
      some (p.fill (tag.rename (l ++ r) hname) children).render := by
  have hstart : size (p.before ++ ['<']) - 1 = size p.before := by simp
  have hrenamed : (p.fill (tag.rename (l ++ r) hname) children).render =
      p.before ++ tag.opened (l ++ r) ++ children.render ++ ['<', '/'] ++ (l ++ r) ++
        (['>'] ++ p.after) := by
    rw [Site.render_fill]
    simp [Site.retyped, Tag.rename, Tag.opened, Tag.closed]
  obtain ⟨hkept, hrest⟩ := cut_closing p tag children (l ++ r)
  simp only [rename?, nameChange?_retyped p tag children hname hne, hstart,
    closing?_retyped p tag children hname, hkept, hrest, hrenamed, Option.bind_eq_bind,
    Option.bind_some]
  rfl

end

end

end MarkupPad.Element
