import MarkupPad.Proofs.Buffer.Closing
import MarkupPad.Proofs.Element.Tree

/-!
# The tags of a tree are matched

Every element of a forest has two tags in its markup, and the search for a closing tag leads
from the one to the other.  The offsets of the tags are read off the tree alone: nothing of the
search is used for them.

    span ∈ f.spansFrom pos → span is the tags of an element at a site of f
                                                                 (exists_site_of_mem_spansFrom)
    span ∈ f.spans → Buffer.closing? f.render span.opening span.tag.opening = some span.closing
                                                                 (every_element_is_matched)
-/

namespace MarkupPad.Element

open Text

/-- The offsets at which the two tags of an element begin. -/
structure Span where
  tag : Tag
  opening : Nat
  closing : Nat

/-! ## Algorithm -/

/-- The tags of all elements of a forest whose markup begins at an offset, in the order of their
opening tags. -/
def Forest.spansFrom (pos : Nat) : Forest → List Span
  | nil => []
  | text t _ rest => rest.spansFrom (pos + size t)
  | element tag children rest =>
    let inside := pos + size (tag.opened tag.opening)
    let close := inside + size children.render
    ⟨tag, pos, close⟩ :: (children.spansFrom inside ++ rest.spansFrom (close + size tag.closed))

/-- The tags of all elements of a forest. -/
def Forest.spans (f : Forest) : List Span := f.spansFrom 0

/-- The tags that a span speaks of stand at its offsets in a text. -/
def Span.IsIn (span : Span) (t : Text) : Prop :=
  ∃ before inside after,
    t = before ++ span.tag.opened span.tag.opening ++ inside ++ span.tag.closed ++ after ∧
      size before = span.opening ∧
      size (before ++ span.tag.opened span.tag.opening ++ inside) = span.closing

/-! ## Lemmas -/

/-- Every element has its span. -/
theorem map_tag_spansFrom (f : Forest) (pos : Nat) :
    (f.spansFrom pos).map (·.tag) = f.elements.map (·.1) := by
  induction f generalizing pos with
  | nil => rfl
  | text t h rest ih => exact ih _
  | element tag children rest ihc ihr =>
    simp [Forest.spansFrom, Forest.elements, ihc, ihr]

/-- **A span is that of the element at a site**: it begins behind all that stands before the
site. -/
theorem exists_site_of_mem_spansFrom {f : Forest} {span : Span} {pos : Nat}
    (h : span ∈ f.spansFrom pos) :
    ∃ (p : Site) (children : Forest), p.fill span.tag children = f ∧
      span.opening = pos + size p.before ∧
      span.closing =
        pos + size (p.before ++ span.tag.opened span.tag.opening ++ children.render) := by
  induction f generalizing pos with
  | nil => cases h
  | text t ht rest ih =>
    obtain ⟨p, children, rfl, ho, hc⟩ := ih h
    refine ⟨.afterText t ht p, children, rfl, ?_, ?_⟩
    · rw [ho, Site.before, size_append, Nat.add_assoc]
    · rw [hc, Site.before]
      simp only [List.append_assoc, size_append, Nat.add_assoc]
  | element tag children rest ihc ihr =>
    rw [Forest.spansFrom, List.mem_cons, List.mem_append] at h
    rcases h with rfl | h | h
    · refine ⟨.here rest, children, rfl, rfl, ?_⟩
      simp only [Site.before, List.nil_append, size_append, Nat.add_assoc]
    · obtain ⟨p, children', rfl, ho, hc⟩ := ihc h
      refine ⟨.inside tag p rest, children', rfl, ?_, ?_⟩
      · rw [ho, Site.before, size_append, Nat.add_assoc]
      · rw [hc, Site.before]
        simp only [List.append_assoc, size_append, Nat.add_assoc]
    · obtain ⟨p, children', rfl, ho, hc⟩ := ihr h
      refine ⟨.afterElement tag children p, children', rfl, ?_, ?_⟩
      · rw [ho, Site.before]
        simp only [List.append_assoc, size_append, Nat.add_assoc]
      · rw [hc, Site.before]
        simp only [List.append_assoc, size_append, Nat.add_assoc]

/-- **In the markup of a forest the search leads from the opening tag of every element to the
closing tag of the same element**, whatever its name has in common with the names around it and
in whatever case the closing tags are spelled. -/
theorem every_element_is_matched (f : Forest) :
    f.spans.map (·.tag) = f.elements.map (·.1) ∧
    ∀ span ∈ f.spans, span.IsIn f.render ∧
      Buffer.closing? f.render span.opening span.tag.opening = some span.closing := by
  refine ⟨map_tag_spansFrom f 0, fun span h => ?_⟩
  obtain ⟨p, children, rfl, ho, hc⟩ := exists_site_of_mem_spansFrom h
  rw [Nat.zero_add] at ho hc
  have hrender := Site.render_fill p span.tag children
  constructor
  · exact ⟨p.before, children.render, p.after, by rw [hrender, Site.retyped], ho.symm, hc.symm⟩
  · rw [Buffer.closing?_eq, hrender, ho, hc]
    exact closing?_retyped p span.tag children span.tag.isName

/-- Names that begin other names, an element in one of the same name, and a sibling of the same
name. -/
theorem every_element_is_matched_among_namesakes :
    ∃ f : Forest, f.render = "<b>x<br a><B></b></br></B><p>é</p><b></b>".toList ∧
      ∃ outer ∈ f.spans, ∃ inner ∈ f.spans,
        (outer.opening, outer.closing) = (0, 22) ∧
        Buffer.closing? f.render 0 outer.tag.opening = some 22 ∧
        (inner.opening, inner.closing) = (10, 13) ∧
        Buffer.closing? f.render 10 inner.tag.opening = some 13 := by
  let outer : Tag := ⟨['b'], ['B'], [], List.all_eq_true.1 rfl, rfl, by simp, by simp⟩
  let inner : Tag := ⟨['B'], ['b'], [], List.all_eq_true.1 rfl, rfl, by simp, by simp⟩
  let br : Tag := ⟨['b', 'r'], ['b', 'r'], [' ', 'a'], List.all_eq_true.1 rfl, rfl,
    by simp [isAsciiBlank], by simp⟩
  let p : Tag := ⟨['p'], ['p'], [], List.all_eq_true.1 rfl, rfl, by simp, by simp⟩
  let b : Tag := ⟨['b'], ['b'], [], List.all_eq_true.1 rfl, rfl, by simp, by simp⟩
  let f : Forest :=
    .element outer
      (.text ['x'] (by simp) (.element br (.element inner .nil .nil) .nil))
      (.element p (.text ['é'] (by simp) .nil) (.element b .nil .nil))
  have h := (every_element_is_matched f).2
  have hspans : f.spans =
      [⟨outer, 0, 22⟩, ⟨br, 4, 17⟩, ⟨inner, 10, 13⟩, ⟨p, 26, 31⟩, ⟨b, 35, 38⟩] := by
    simp [f, outer, inner, br, p, b, Forest.spans, Forest.spansFrom, Forest.render, Tag.opened,
      Tag.closed, Char.utf8Size]
  have houter : (⟨outer, 0, 22⟩ : Span) ∈ f.spans := by simp [hspans]
  have hinner : (⟨inner, 10, 13⟩ : Span) ∈ f.spans := by simp [hspans]
  exact ⟨f, rfl, _, houter, _, hinner, rfl, (h _ houter).2, rfl, (h _ hinner).2⟩

end MarkupPad.Element
