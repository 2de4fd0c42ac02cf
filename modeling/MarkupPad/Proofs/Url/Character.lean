import MarkupPad.Proofs.Text.Case
import MarkupPad.Proofs.Text.Split
import MarkupPad.Url.Basic

/-!
# The characters of a web address

Nothing that encoding replaces is left in the credentials, the path, the query and the fragment.
The host is not encoded: a domain name is made small, and only forbidden characters are refused.
So an address is plain but for the quotation marks in its domain name.

    c ∈ encode p t → p c = false                                       (not_of_mem_encode)
    Host.ofText? t = some host → host.IsAllowed                        (isAllowed_of_ofText?)
    ofText? t = some u → u.IsEncoded                                   (isEncoded_of_ofText?)
    c ∈ u.toText → isPlain c ∨ c = '"' ∧ c ∈ u.host.toText             (isPlain_of_mem_toText)
                                                          where u.IsEncoded
-/

namespace MarkupPad

open Text

/-! ## Digits -/

theorem mem_toDigits {b n : Nat} {c : Char} (hb : 1 < b) (h : c ∈ Nat.toDigits b n) :
    ∃ d < b, c = Nat.digitChar d := by
  induction n using Nat.strongRecOn with
  | ind n ih =>
    rw [Nat.toDigits_eq_if hb] at h
    split at h
    · next hn => exact ⟨n, hn, List.mem_singleton.1 h⟩
    · next hn =>
      rcases List.mem_append.1 h with h | h
      · exact ih (n / b) (Nat.div_lt_self (by omega) hb) h
      · exact ⟨n % b, Nat.mod_lt n (by omega), List.mem_singleton.1 h⟩

namespace Url

/-! ## Encoded parts -/

section
variable {p : Char → Bool} (hmark : p '%' = false) (hdigit : ∀ n < 16, p (hexDigit n) = false)

include hmark hdigit

theorem not_of_mem_encodeByte {b : UInt8} {c : Char} (h : c ∈ encodeByte b) : p c = false := by
  have hb := b.toNat_lt
  simp only [encodeByte, List.mem_cons, List.not_mem_nil, or_false] at h
  rcases h with rfl | rfl | rfl
  · exact hmark
  · exact hdigit _ (by omega)
  · exact hdigit _ (by omega)

/-- **Encoding leaves nothing of its set**, if the set has no percent sign and no digit. -/
theorem not_of_mem_encode {t : Text} {c : Char} (h : c ∈ encode p t) : p c = false := by
  obtain ⟨d, -, hc⟩ := List.mem_flatMap.1 h
  by_cases hd : p d
  · rw [encodeChar, if_pos hd] at hc
    obtain ⟨b, -, hb⟩ := List.mem_flatMap.1 hc
    exact not_of_mem_encodeByte hmark hdigit hb
  · rw [encodeChar, if_neg hd, List.mem_singleton] at hc
    rw [hc]
    simpa using hd

end

theorem mem_dropSegment {done : List Text} {segment : Text} (h : segment ∈ dropSegment done) :
    segment ∈ done := by
  unfold dropSegment at h
  split at h
  · cases h
  · split at h
    · exact h
    · exact List.mem_cons_of_mem _ h

/-- A path is made of the segments that stay and of empty ones. -/
theorem exists_pathOf_eq {P : Text → Prop} (hnil : P []) {done segments : List Text}
    (hdone : ∀ s ∈ done, P s) (hsegments : ∀ s ∈ segments, P s) :
    ∃ pieces, pathOf done segments = '/' :: join ['/'] pieces ∧ ∀ s ∈ pieces, P s := by
  have hreverse {pieces : List Text} (h : ∀ s ∈ pieces, P s) : ∀ s ∈ pieces.reverse, P s :=
    fun s hs => h s (List.mem_reverse.1 hs)
  -- two dots only take segments away, so what holds of all segments is kept
  fun_induction pathOf done segments with
  | case1 done => exact ⟨_, rfl, hreverse hdone⟩
  | case2 done last done' =>
    have hlast : ∀ s ∈ done', P s := by
      simp only [done']
      split
      · exact List.forall_mem_cons.2 ⟨hnil, fun s hs => hdone s (mem_dropSegment hs)⟩
      · split
        · exact List.forall_mem_cons.2 ⟨hnil, hdone⟩
        · exact List.forall_mem_cons.2 ⟨hsegments last List.mem_cons_self, hdone⟩
    exact ⟨_, rfl, hreverse hlast⟩
  | case3 done segment segments hne hdots ih =>
    exact ih (fun s hs => hdone s (mem_dropSegment hs)) (List.forall_mem_cons.1 hsegments).2
  | case4 done segment segments hne hdots hdot ih =>
    exact ih hdone (List.forall_mem_cons.1 hsegments).2
  | case5 done segment segments hne hdots hdot ih =>
    obtain ⟨hsegment, hrest⟩ := List.forall_mem_cons.1 hsegments
    exact ih (List.forall_mem_cons.2 ⟨hsegment, hdone⟩) hrest

theorem not_inPathSet_of_mem_normalPath {t : Text} {c : Char} (h : c ∈ normalPath t) :
    inPathSet c = false := by
  obtain ⟨pieces, hpath, hpieces⟩ :
      ∃ pieces, normalPath t = '/' :: join ['/'] pieces ∧
        ∀ s ∈ pieces, ∀ c ∈ s, inPathSet c = false := by
    refine exists_pathOf_eq (by simp) (by simp) fun segment hs c hc => ?_
    obtain ⟨piece, -, rfl⟩ := List.mem_map.1 hs
    exact not_of_mem_encode (by decide) (by decide) hc
  rw [hpath] at h
  have hslash : inPathSet '/' = false := by decide
  rcases List.mem_cons.1 h with rfl | h
  · exact hslash
  · rcases mem_join h with h | ⟨s, hs, hc⟩
    · rw [List.mem_singleton.1 h, hslash]
    · exact hpieces s hs c hc

/-! ## Decoding -/

theorem hexValue?_lt {c : Char} {n : Nat} (h : hexValue? c = some n) : n < 16 := by
  have hle {a b : Char} (h : a ≤ b) : a.toNat ≤ b.toNat := UInt32.le_iff_toNat_le.1 h
  unfold hexValue? at h
  split at h
  · next hc =>
    simp only [Char.isDigit, Bool.and_eq_true, decide_eq_true_eq] at hc
    have h9 : c.toNat ≤ '9'.toNat := UInt32.le_iff_toNat_le.1 hc.2
    simp at h h9
    omega
  · simp only at h
    split at h
    · next hc =>
      have hf := hle hc.2
      simp at h hf
      omega
    · cases h

/-- What is decoded is ASCII, also where a percent sign stands for itself. -/
theorem ascii_of_decodeAscii? {t u : Text} (h : decodeAscii? t = some u) :
    ∀ c ∈ u, c.toNat < 128 := by
  have hascii : ∀ n < 128, (Char.ofNat n).toNat < 128 := by decide
  fun_induction decodeAscii? t generalizing u with
  | case1 a b t high low hlow hhigh hlt ih =>
    obtain ⟨rest, hrest, rfl⟩ := Option.map_eq_some_iff.1 h
    have hdigit := hexValue?_lt hlow
    exact List.forall_mem_cons.2 ⟨hascii _ (by omega), ih hrest⟩
  | case2 a b t high low hhigh hlow hlt => cases h
  | case3 a b t hnone ih =>
    obtain ⟨rest, hrest, rfl⟩ := Option.map_eq_some_iff.1 h
    exact List.forall_mem_cons.2 ⟨by decide, ih hrest⟩
  | case4 c t hnone hc ih =>
    obtain ⟨rest, hrest, rfl⟩ := Option.map_eq_some_iff.1 h
    exact List.forall_mem_cons.2 ⟨hc, ih hrest⟩
  | case5 c t hnone hc => cases h
  | case6 =>
    cases h
    simp

end Url

namespace Host

/-! ## Hosts -/

/-- The characters of addresses. -/
def addressChars : List Char := "0123456789abcdef.:[]".toList

/-- A domain name is in ASCII and without forbidden characters. -/
def IsAllowed : Host → Prop
  | domain name => ∀ c ∈ name, c.toNat < 128 ∧ isForbidden c = false
  | ipv4 _ => True
  | ipv6 _ => True

theorem mem_addressChars_of_digit {b n : Nat} {c : Char} (hb : 1 < b) (hle : b ≤ 16)
    (h : c ∈ Nat.toDigits b n) : c ∈ addressChars := by
  have hdigits : ∀ d < 16, Nat.digitChar d ∈ addressChars := by decide
  obtain ⟨d, hd, rfl⟩ := mem_toDigits hb h
  exact hdigits d (by omega)

theorem mem_addressChars_of_ipv4Text {n : Nat} {c : Char} (h : c ∈ ipv4Text n) :
    c ∈ addressChars := by
  rcases mem_join h with h | ⟨t, ht, hc⟩
  · rw [List.mem_singleton.1 h]
    decide
  · obtain ⟨byte, -, rfl⟩ := List.mem_map.1 ht
    exact mem_addressChars_of_digit (by decide) (by decide) hc

theorem mem_addressChars_of_ipv6Text {pieces : List Nat} {c : Char} (h : c ∈ ipv6Text pieces) :
    c ∈ addressChars := by
  have hcolon : ':' ∈ addressChars := by decide
  have hgroups {pieces : List Nat} (h : c ∈ join [':'] (pieces.map pieceText)) :
      c ∈ addressChars := by
    rcases mem_join h with h | ⟨t, ht, hc⟩
    · rw [List.mem_singleton.1 h]
      exact hcolon
    · obtain ⟨piece, -, rfl⟩ := List.mem_map.1 ht
      exact mem_addressChars_of_digit (by decide) (by decide) hc
  unfold ipv6Text at h
  simp only at h
  split at h
  · exact hgroups h
  · rcases List.mem_append.1 h with h | h
    · rcases List.mem_append.1 h with h | h
      · exact hgroups h
      · simp only [List.mem_cons, List.not_mem_nil, or_false, or_self] at h
        rw [h]
        exact hcolon
    · exact hgroups h

/-- A host is a domain name, or it has the characters of addresses. -/
theorem mem_toText {host : Host} {c : Char} (h : c ∈ host.toText) :
    (∃ name, host = domain name ∧ c ∈ name) ∨ c ∈ addressChars := by
  cases host with
  | domain name => exact Or.inl ⟨name, rfl, h⟩
  | ipv4 address => exact Or.inr (mem_addressChars_of_ipv4Text h)
  | ipv6 pieces =>
    have hbrackets : '[' ∈ addressChars ∧ ']' ∈ addressChars := by decide
    rcases List.mem_append.1 h with h | h
    · rcases List.mem_cons.1 h with rfl | h
      · exact Or.inr hbrackets.1
      · exact Or.inr (mem_addressChars_of_ipv6Text h)
    · rw [List.mem_singleton.1 h]
      exact Or.inr hbrackets.2

theorem isAllowed_of_domain? {t name : Text} (h : domain? t = some name) :
    (domain name).IsAllowed := by
  simp only [domain?, Option.bind_eq_bind, Option.bind_eq_some_iff] at h
  obtain ⟨decoded, hdecoded, h⟩ := h
  split at h
  · next hname =>
    cases h
    intro c hc
    refine ⟨?_, by simpa using List.all_eq_true.1 hname.2.1 c hc⟩
    obtain ⟨d, hd, rfl⟩ := List.mem_map.1 hc
    exact toNat_toLower_lt_iff.2 (Url.ascii_of_decodeAscii? hdecoded d hd)
  · cases h

/-- **A host that is read has no forbidden character.** -/
theorem isAllowed_of_ofText? {t : Text} {host : Host} (h : ofText? t = some host) :
    host.IsAllowed := by
  unfold ofText? at h
  split at h
  · split at h
    · obtain ⟨pieces, -, rfl⟩ := Option.map_eq_some_iff.1 h
      trivial
    · cases h
  · simp only [Option.bind_eq_bind, Option.bind_eq_some_iff] at h
    obtain ⟨name, hname, h⟩ := h
    split at h
    · obtain ⟨address, -, rfl⟩ := Option.map_eq_some_iff.1 h
      trivial
    · cases h
      exact isAllowed_of_domain? hname

end Host

namespace Url

/-! ## Whole addresses -/

/-- An address of which every part has only characters that its part may have. -/
structure IsEncoded (u : Url) : Prop where
  username : ∀ c ∈ u.username, inUserinfoSet c = false
  password : ∀ t ∈ u.password, ∀ c ∈ t, inUserinfoSet c = false
  host : u.host.IsAllowed
  path : ∀ c ∈ u.path, inPathSet c = false
  query : ∀ t ∈ u.query, ∀ c ∈ t, inQuerySet c = false
  fragment : ∀ t ∈ u.fragment, ∀ c ∈ t, inFragmentSet c = false

theorem not_inUserinfoSet_of_mem_readCredentials (t : Text) :
    (∀ c ∈ (readCredentials t).1, inUserinfoSet c = false) ∧
      ∀ password ∈ (readCredentials t).2, ∀ c ∈ password, inUserinfoSet c = false := by
  have hencode (t : Text) : ∀ c ∈ encode inUserinfoSet t, inUserinfoSet c = false :=
    fun c => not_of_mem_encode (by decide) (by decide)
  unfold readCredentials
  split
  · exact ⟨hencode _, by simp⟩
  · exact ⟨hencode _, by simp⟩
  · refine ⟨hencode _, ?_⟩
    rintro password hpassword
    cases hpassword
    exact hencode _

theorem isEncoded_of_ofCleanText? {t : Text} {u : Url} (h : ofCleanText? t = some u) :
    u.IsEncoded := by
  simp only [ofCleanText?, Option.bind_eq_bind, Option.bind_eq_some_iff] at h
  obtain ⟨⟨scheme, rest⟩, -, host, hhost, port, -, h⟩ := h
  cases h
  obtain ⟨husername, hpassword⟩ := not_inUserinfoSet_of_mem_readCredentials
    (splitTrailing (· != '@')
      ((rest.dropWhile fun c => c = '/' || c = '\\').span (!endsAuthority ·)).1).1.dropLast
  refine ⟨husername, hpassword, Host.isAllowed_of_ofText? hhost,
    fun c => not_inPathSet_of_mem_normalPath, ?_, ?_⟩
  · intro query hq c hc
    obtain ⟨t, -, rfl⟩ := Option.map_eq_some_iff.1 hq
    exact not_of_mem_encode (by decide) (by decide) hc
  · intro fragment hf c hc
    obtain ⟨t, -, rfl⟩ := Option.map_eq_some_iff.1 hf
    exact not_of_mem_encode (by decide) (by decide) hc

/-- **Every address that is read is encoded.** -/
theorem isEncoded_of_ofText? {t : Text} {u : Url} (h : ofText? t = some u) : u.IsEncoded :=
  isEncoded_of_ofCleanText? h

/-- Printable ASCII characters that delimit no attribute and no tag. -/
def isPlain (c : Char) : Bool := !(isControl c || c = ' ' || c = '"' || c = '<' || c = '>')

/-- The quotation mark is the only allowed character of a domain name that is not plain. -/
theorem isPlain_of_not_isForbidden {c : Char} (hascii : c.toNat < 128)
    (h : Host.isForbidden c = false) (hquote : c ≠ '"') : isPlain c := by
  have hall : ∀ n < 128, Host.isForbidden (Char.ofNat n) = false → Char.ofNat n ≠ '"' →
      isPlain (Char.ofNat n) := by decide
  have hc := hall c.toNat hascii
  rw [Char.ofNat_toNat] at hc
  exact hc h hquote

theorem isPlain_of_not_inFragmentSet {c : Char} (h : inFragmentSet c = false) : isPlain c := by
  simp only [inFragmentSet, Bool.or_eq_false_iff] at h
  simp [isPlain, h]

theorem isPlain_of_not_inPathSet {c : Char} (h : inPathSet c = false) : isPlain c := by
  simp only [inPathSet, Bool.or_eq_false_iff] at h
  exact isPlain_of_not_inFragmentSet h.1.1.1.1

theorem isPlain_of_not_inUserinfoSet {c : Char} (h : inUserinfoSet c = false) : isPlain c := by
  simp only [inUserinfoSet, Bool.or_eq_false_iff] at h
  exact isPlain_of_not_inPathSet h.1.1.1.1.1.1.1.1.1.1

theorem isPlain_of_not_inQuerySet {c : Char} (h : inQuerySet c = false) : isPlain c := by
  simp only [inQuerySet, Bool.or_eq_false_iff] at h
  simp [isPlain, h]

theorem isPlain_of_mem_addressChars {c : Char} (h : c ∈ Host.addressChars) : isPlain c := by
  have hall : Host.addressChars.all isPlain := by decide
  exact List.all_eq_true.1 hall c h

/-- No plain character is a blank. -/
theorem isBlank_of_isPlain {c : Char} (h : isPlain c) : isBlank c = false := by
  have hall : ∀ n < 128, isPlain (Char.ofNat n) → isBlank (Char.ofNat n) = false := by decide
  have hascii : c.toNat < 128 := by
    simp only [isPlain, isControl, Bool.not_eq_true', Bool.or_eq_false_iff,
      decide_eq_false_iff_not] at h
    omega
  have hc := hall c.toNat hascii
  rw [Char.ofNat_toNat] at hc
  exact hc h

theorem mem_part {mark : Char} {o : Option Text} {c : Char} :
    c ∈ part mark o ↔ ∃ t ∈ o, c = mark ∨ c ∈ t := by
  cases o with
  | none => simp [part]
  | some t => simp [part]

theorem mem_origin_of_mem_host {u : Url} {c : Char} (h : c ∈ u.host.toText) : c ∈ u.origin :=
  List.mem_append_right _ (List.mem_append_left _ h)

theorem mem_toText_of_mem_host {u : Url} {c : Char} (h : c ∈ u.host.toText) : c ∈ u.toText := by
  simp [toText, site, h]

/-- A character of a site is in the host, or is one of addresses, as are a colon and digits. -/
theorem mem_host_or_addressChars_of_mem_site {u : Url} {c : Char} (h : c ∈ u.site) :
    c ∈ u.host.toText ∨ c ∈ Host.addressChars := by
  rcases List.mem_append.1 h with h | h
  · exact .inl h
  · obtain ⟨port, hport, h⟩ := mem_part.1 h
    obtain ⟨n, -, rfl⟩ := Option.map_eq_some_iff.1 hport
    rcases h with rfl | h
    · exact .inr (by decide)
    · exact .inr (Host.mem_addressChars_of_digit (by decide) (by decide) h)

/-- What is no letter of a scheme, no mark and no digit stands in the host of an origin. -/
theorem mem_host_of_mem_origin {u : Url} {c : Char} (hscheme : c ∉ "htps/".toList)
    (haddress : c ∉ Host.addressChars) (h : c ∈ u.origin) : c ∈ u.host.toText := by
  rcases List.mem_append.1 h with h | h
  · have hchars : u.schemePart.all ("htps/".toList ++ Host.addressChars).contains := by
      unfold schemePart
      cases u.scheme <;> decide
    have hc := List.all_eq_true.1 hchars c h
    rw [List.contains_iff_mem, List.mem_append] at hc
    rcases hc with hc | hc
    · exact absurd hc hscheme
    · exact absurd hc haddress
  · exact (mem_host_or_addressChars_of_mem_site h).resolve_right haddress

theorem isPlain_of_mem_schemePart {u : Url} {c : Char} (h : c ∈ u.schemePart) : isPlain c := by
  have hscheme : u.schemePart.all isPlain := by
    unfold schemePart
    cases u.scheme <;> decide
  exact List.all_eq_true.1 hscheme c h

/-- A part is plain if its mark and its text are. -/
theorem isPlain_of_mem_part {mark : Char} {o : Option Text} {c : Char} (hmark : isPlain mark)
    (ht : ∀ t ∈ o, ∀ c ∈ t, isPlain c) (h : c ∈ part mark o) : isPlain c := by
  obtain ⟨t, hmem, rfl | hc⟩ := mem_part.1 h
  · exact hmark
  · exact ht t hmem c hc

namespace IsEncoded

variable {u : Url} (hu : u.IsEncoded) {c : Char}

include hu

theorem isPlain_of_mem_host (h : c ∈ u.host.toText) : isPlain c ∨ c = '"' := by
  rcases Host.mem_toText h with ⟨name, hname, hc⟩ | h
  · have hallowed := hu.host
    rw [hname] at hallowed
    obtain ⟨hascii, hforbidden⟩ := hallowed c hc
    -- all other characters of a quoted attribute are among the forbidden ones
    by_cases hquote : c = '"'
    · exact Or.inr hquote
    · exact Or.inl (isPlain_of_not_isForbidden hascii hforbidden hquote)
  · exact Or.inl (isPlain_of_mem_addressChars h)

theorem isPlain_of_mem_credentials (h : c ∈ u.credentials) : isPlain c := by
  unfold credentials at h
  split at h
  · cases h
  · rcases List.mem_append.1 h with h | h
    · rcases List.mem_append.1 h with h | h
      · exact isPlain_of_not_inUserinfoSet (hu.username c h)
      · exact isPlain_of_mem_part (by decide)
          (fun t ht c hc => isPlain_of_not_inUserinfoSet (hu.password t ht c hc)) h
    · rw [List.mem_singleton.1 h]
      decide

theorem isPlain_of_mem_site (h : c ∈ u.site) : isPlain c ∨ c = '"' ∧ c ∈ u.host.toText := by
  rcases mem_host_or_addressChars_of_mem_site h with h | h
  · exact (hu.isPlain_of_mem_host h).imp_right fun hc => ⟨hc, h⟩
  · exact Or.inl (isPlain_of_mem_addressChars h)

/-- The origin adds the scheme, a colon, slashes and the port to the host. -/
theorem isPlain_of_mem_origin (h : c ∈ u.origin) :
    isPlain c ∨ c = '"' ∧ c ∈ u.host.toText := by
  rcases List.mem_append.1 h with h | h
  · exact Or.inl (isPlain_of_mem_schemePart h)
  · exact hu.isPlain_of_mem_site h

/-- **An address is plain but for the quotation marks in its host.** -/
theorem isPlain_of_mem_toText (h : c ∈ u.toText) : isPlain c ∨ c = '"' ∧ c ∈ u.host.toText := by
  simp only [toText, List.mem_append] at h
  rcases h with ((((h | h) | h) | h) | h) | h
  · exact Or.inl (isPlain_of_mem_schemePart h)
  · exact Or.inl (hu.isPlain_of_mem_credentials h)
  · exact hu.isPlain_of_mem_site h
  · exact Or.inl (isPlain_of_not_inPathSet (hu.path c h))
  · exact Or.inl (isPlain_of_mem_part (by decide)
      (fun t ht c hc => isPlain_of_not_inQuerySet (hu.query t ht c hc)) h)
  · exact Or.inl (isPlain_of_mem_part (by decide)
      (fun t ht c hc => isPlain_of_not_inFragmentSet (hu.fragment t ht c hc)) h)

end IsEncoded

end Url

end MarkupPad
