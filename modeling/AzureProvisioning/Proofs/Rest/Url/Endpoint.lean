/-
# Addresses below an endpoint

A bare endpoint names a scheme and a host and nothing else. What is written behind it is then read on
its own: the place up to the first mark is the path, and what follows the mark is the query, whatever
the host is (`path_parse?`, `query_parse?`).

An address is read from left to right by cutting it. Each cut is made inside the endpoint, or the
endpoint has no such character and the cut is made behind it (`cut_append`, `cut_append_of_forall`).
-/

import AzureProvisioning.Proofs.Rest.Url.Segments
import AzureProvisioning.Rest.Url

namespace AzureProvisioning
namespace Url

section Cutting

variable {p : Char → Bool} {s : List Char}

theorem append_cut (p : Char → Bool) (s : List Char) : (cut p s).1 ++ (cut p s).2 = s :=
  List.takeWhile_append_dropWhile

/-- A text that is cut somewhere is cut there whatever follows. -/
theorem cut_append (h : (cut p s).2 ≠ []) (t : List Char) :
    cut p (s ++ t) = ((cut p s).1, (cut p s).2 ++ t) := by
  have hdrop : (s.dropWhile fun c => !p c).isEmpty = false := by simpa [cut] using h
  have hlength : (s.takeWhile fun c => !p c).length ≠ s.length := by
    intro hlength
    have happend := congrArg List.length (append_cut p s)
    rw [List.length_append, show (cut p s).1.length = s.length from hlength] at happend
    exact h (List.length_eq_zero_iff.1 (Nat.add_eq_left.1 happend))
  rw [cut, cut, List.takeWhile_append, if_neg hlength, List.dropWhile_append, hdrop]
  rfl

/-- A text that is cut nowhere is passed over. -/
theorem cut_append_of_forall (h : ∀ c ∈ s, p c = false) (t : List Char) :
    cut p (s ++ t) = (s ++ (cut p t).1, (cut p t).2) := by
  have hnot : ∀ c ∈ s, (!p c) = true := fun c hc => by rw [h c hc]; rfl
  rw [cut, cut, List.takeWhile_append_of_pos hnot, List.dropWhile_append_of_pos hnot]

theorem cut_of_pos {c : Char} (h : p c = true) (t : List Char) : cut p (c :: t) = ([], c :: t) := by
  rw [cut, List.takeWhile_cons_of_neg (by simp [h]), List.dropWhile_cons_of_neg (by simp [h])]

end Cutting

/-- The text without controls and blanks at its start and without tabulators and line breaks. -/
def opened (s : List Char) : List Char :=
  (s.dropWhile isEdge).filter (!isBreak ·)

/-- Whether the character separates what follows the scheme. -/
def isSeparator (c : Char) : Bool :=
  c == '/' || c == '\\'

/-- What follows the scheme of an endpoint, and the separators behind that. -/
def hostPlace (s : List Char) : List Char :=
  (cut (· == ':') (opened s)).2.tail.dropWhile isSeparator

/-- Whether the endpoint has a scheme and a host, and no path, query or fragment. -/
def isBare (endpoint : String) : Bool :=
  !(hostPlace endpoint.toList).isEmpty &&
    (hostPlace endpoint.toList).all fun c => !isSeparator c && !endsPath c

variable {endpoint : String}

theorem isBare_iff :
    isBare endpoint = true ↔ hostPlace endpoint.toList ≠ [] ∧
      ∀ c ∈ hostPlace endpoint.toList, isSeparator c = false ∧ endsPath c = false := by
  simp [isBare]

theorem isSeparator_eq {form : Form} (h : form ≠ .other) : form.isSlash = isSeparator :=
  funext (isSlash_eq h)

/-- What is written behind an endpoint is cleaned on its own, if it has no blank at its end. -/
theorem cleaned_append {s : List Char} (h : opened s ≠ []) (t : List Char) {last : Char}
    (hlast : isEdge last = false) :
    cleaned (s ++ (t ++ [last])) = opened s ++ (t ++ [last]).filter (!isBreak ·) := by
  have hdrop : (s.dropWhile isEdge).isEmpty = false := by
    cases hs : s.dropWhile isEdge with
    | nil => exact absurd (by rw [opened, hs]; rfl) h
    | cons => rfl
  have hfilter (r : List Char) :
      (r.filter fun c => c != '\t' && c != '\n' && c != '\r') = r.filter (!isBreak ·) := by
    refine List.filter_congr fun c _ => ?_
    rw [isBreak, Bool.not_or, Bool.not_or]
    rfl
  rw [cleaned, hfilter, List.dropWhile_append, hdrop, if_neg Bool.false_ne_true, ← List.append_assoc,
    List.reverse_append, List.reverse_singleton, List.singleton_append,
    List.dropWhile_cons_of_neg (by simp [hlast]), List.reverse_cons, List.reverse_reverse,
    List.append_assoc, List.filter_append, opened]

/-- The scheme of an endpoint is read inside it. -/
theorem scheme?_append {s : List Char} (h : (cut (· == ':') s).2 ≠ []) (t : List Char) :
    scheme? (s ++ t) = (scheme? s).map fun (scheme, rest) => (scheme, rest ++ t) := by
  obtain ⟨colon, rest, hrest⟩ := List.exists_cons_of_ne_nil h
  unfold scheme?
  dsimp only
  rw [cut_append h, hrest]
  dsimp only [List.cons_append, List.isEmpty_cons, List.tail_cons]
  split <;> rfl

theorem scheme?_rest {s rest : List Char} {scheme : String} (h : scheme? s = some (scheme, rest)) :
    rest = (cut (· == ':') s).2.tail := by
  unfold scheme? at h
  dsimp only at h
  split at h
  · cases h
  · exact (Prod.mk.inj (Option.some.inj h)).2.symm

section Place

variable {form : Form} {rest path : List Char}

/-- The host at the start of a place is passed over, and the path begins behind it. -/
theorem path_networkPlace? {authority : Authority} {found : Path} (hform : form ≠ .other)
    (hhost : rest.dropWhile isSeparator ≠ [])
    (hbare : ∀ c ∈ rest.dropWhile isSeparator, isSeparator c = false)
    (h : networkPlace? form (rest ++ '/' :: path) = some (authority, found)) :
    found = .ofParts (segments form ('/' :: path)) := by
  have hdrop : (rest ++ '/' :: path).dropWhile form.isSlash =
      rest.dropWhile isSeparator ++ '/' :: path := by
    rw [isSeparator_eq hform, List.dropWhile_append, if_neg (by simpa using hhost)]
  have hcut : cut form.isSlash (rest.dropWhile isSeparator ++ '/' :: path) =
      (rest.dropWhile isSeparator, '/' :: path) := by
    rw [isSeparator_eq hform, cut_append_of_forall hbare, cut_of_pos (by rfl), List.append_nil]
  unfold networkPlace? at h
  rw [hdrop, hcut] at h
  obtain ⟨⟨authority', left⟩, -, h⟩ := Option.bind_eq_some_iff.1 h
  exact (Prod.mk.inj (Option.some.inj h)).2.symm

end Place

theorem isBreak_of_isEdge {c : Char} (h : isEdge c = false) : isBreak c = false := by
  rw [isBreak, Bool.or_eq_false_iff, Bool.or_eq_false_iff]
  refine ⟨⟨?_, ?_⟩, ?_⟩ <;>
  · rw [beq_eq_false_iff_ne]
    rintro rfl
    exact nomatch h

/-- An address is read as its scheme, the place of its path and host, and the query. -/
theorem exists_of_parse? {s : String} {u : Url} (h : parse? s = some u) :
    ∃ rest authority, scheme? (cleaned s.toList) = some (u.scheme, rest) ∧
      place? (Form.ofScheme u.scheme) (cut endsPath rest).1 = some (authority, u.path) ∧
      u.query = marked? (Form.ofScheme u.scheme).querySet
        (cut (· == '#') (cut endsPath rest).2).1 := by
  unfold parse? at h
  obtain ⟨⟨scheme, rest⟩, hscheme, h⟩ := Option.bind_eq_some_iff.1 h
  obtain ⟨⟨authority, path⟩, hplace, hu⟩ := Option.bind_eq_some_iff.1 h
  obtain rfl := Option.some.inj hu
  exact ⟨rest, authority, hscheme, hplace, rfl⟩

theorem form_network {scheme : String} (h : scheme = "http" ∨ scheme = "https") :
    ∃ number, Form.ofScheme scheme = .network number := by
  obtain rfl | rfl := h
  · exact ⟨80, rfl⟩
  · exact ⟨443, rfl⟩

section Below

variable {address : String} {u : Url} {path query : List Char}

theorem pathPlace_slash (s : List Char) : pathPlace ('/' :: s) = '/' :: pathPlace s := by
  rw [pathPlace, List.filter_cons_of_pos (by decide), List.takeWhile_cons_of_pos (by decide), pathPlace]

/-- What is left of an address below a bare endpoint once its scheme is read: the host, and what is
written behind the endpoint. -/
theorem exists_rest_of_isBare {rest : List Char} {scheme : String} {t : List Char} {last : Char}
    (hbare : isBare endpoint = true) (hlast : isEdge last = false)
    (h : scheme? (cleaned (endpoint.toList ++ (t ++ [last]))) = some (scheme, rest)) :
    ∃ place, rest = place ++ (t ++ [last]).filter (!isBreak ·) ∧
      place.dropWhile isSeparator = hostPlace endpoint.toList ∧ ∀ c ∈ place, endsPath c = false := by
  obtain ⟨hhost, hchars⟩ := isBare_iff.1 hbare
  have hcolon : (cut (· == ':') (opened endpoint.toList)).2 ≠ [] := by
    intro hnil
    rw [hostPlace, hnil] at hhost
    exact hhost rfl
  have hopened : opened endpoint.toList ≠ [] := by
    intro hnil
    rw [hnil] at hcolon
    exact hcolon rfl
  rw [cleaned_append hopened t hlast, scheme?_append hcolon] at h
  obtain ⟨⟨scheme', place⟩, hplace, heq⟩ := Option.map_eq_some_iff.1 h
  obtain rfl := (Prod.mk.inj heq).2
  have htail := scheme?_rest hplace
  have hdrop : place.dropWhile isSeparator = hostPlace endpoint.toList := by rw [htail, hostPlace]
  refine ⟨place, rfl, hdrop, fun c hc => ?_⟩
  rw [← List.takeWhile_append_dropWhile (p := isSeparator) (l := place), hdrop] at hc
  obtain hc | hc := List.mem_append.1 hc
  · obtain h | h := Bool.or_eq_true_iff.1 (List.mem_takeWhile_imp (p := isSeparator) hc)
    · rw [beq_iff_eq.1 h]
      rfl
    · rw [beq_iff_eq.1 h]
      rfl
  · exact (hchars c hc).2

/-- A path without marks ends where the query behind it begins. -/
theorem cut_place_append_query (hpath : ∀ c ∈ path, isBreak c = false ∧ endsPath c = false)
    (hquery : ∀ c ∈ query, isBreak c = false) :
    cut endsPath (('/' :: path ++ '?' :: query).filter (!isBreak ·)) = ('/' :: path, '?' :: query) := by
  have hfilter : ('/' :: path ++ '?' :: query).filter (!isBreak ·) = '/' :: path ++ '?' :: query := by
    refine List.filter_eq_self.2 fun c hc => ?_
    rw [List.cons_append, List.mem_cons, List.mem_append, List.mem_cons] at hc
    obtain rfl | hc | rfl | hc := hc
    · rfl
    · rw [(hpath c hc).1]
      rfl
    · rfl
    · rw [hquery c hc]
      rfl
  rw [hfilter, cut_append_of_forall, cut_of_pos (by rfl), List.append_nil]
  intro c hc
  obtain rfl | hc := List.mem_cons.1 hc
  · rfl
  · exact (hpath c hc).2

/-- A query without a number sign is followed by nothing. -/
theorem cut_query (h : ∀ c ∈ query, c ≠ '#') : cut (· == '#') ('?' :: query) = ('?' :: query, []) := by
  have hnone : ∀ c ∈ '?' :: query, (c == '#') = false := by
    intro c hc
    obtain rfl | hc := List.mem_cons.1 hc
    · rfl
    · exact beq_eq_false_iff_ne.2 (h c hc)
  simpa [cut] using cut_append_of_forall hnone []

/-- **What is written behind a bare endpoint is read on its own.** The place up to the first mark is the
path, and if the path has no mark, what follows it is the query. -/
theorem parse?_of_isBare (hbare : isBare endpoint = true)
    (haddress : address.toList = endpoint.toList ++ ('/' :: path ++ '?' :: query)) (hne : query ≠ [])
    (hquery : ∀ c ∈ query, isEdge c = false ∧ c ≠ '#') (hparse : parse? address = some u)
    (hscheme : u.scheme = "http" ∨ u.scheme = "https") :
    ∃ form, form ≠ .other ∧ u.path = .ofParts (segments form (pathPlace ('/' :: path))) ∧
      ((∀ c ∈ path, isBreak c = false ∧ endsPath c = false) →
        u.query = some (String.ofList (percentEncode form.querySet query))) := by
  obtain ⟨rest, authority, hrest, hplace, hfound⟩ := exists_of_parse? hparse
  obtain ⟨number, hform⟩ := form_network hscheme
  rw [hform] at hplace hfound
  have hlast : ('/' :: path ++ '?' :: query) =
      ('/' :: path ++ '?' :: query.dropLast) ++ [query.getLast hne] := by
    rw [List.append_assoc]
    exact congrArg (fun q => '/' :: path ++ '?' :: q) (List.dropLast_append_getLast hne).symm
  rw [haddress, hlast] at hrest
  obtain ⟨place, rfl, hdrop, hends⟩ :=
    exists_rest_of_isBare hbare (hquery _ (List.getLast_mem hne)).1 hrest
  rw [← hlast, cut_append_of_forall hends] at hplace hfound
  refine ⟨.network number, nofun, ?_, fun hpath => ?_⟩
  · have hcut : (cut endsPath (('/' :: path ++ '?' :: query).filter (!isBreak ·))).1 =
        '/' :: pathPlace path := by
      show pathPlace ('/' :: path ++ '?' :: query) = _
      rw [pathPlace_append_mark, pathPlace_slash]
    rw [hcut] at hplace
    obtain ⟨⟨found, foundPath⟩, hnetwork, heq⟩ := Option.map_eq_some_iff.1 hplace
    obtain ⟨hhost, hchars⟩ := isBare_iff.1 hbare
    rw [← (Prod.mk.inj heq).2, pathPlace_slash]
    have hne : place.dropWhile isSeparator ≠ [] := by rwa [hdrop]
    have hbare : ∀ c ∈ place.dropWhile isSeparator, isSeparator c = false := by
      rw [hdrop]
      exact fun c hc => (hchars c hc).1
    exact path_networkPlace? nofun hne hbare hnetwork
  · have hbreak : ∀ c ∈ query, isBreak c = false := fun c hc => isBreak_of_isEdge (hquery c hc).1
    rw [hfound, cut_place_append_query hpath hbreak, cut_query fun c hc => (hquery c hc).2]
    rfl

end Below

section Inert

/-- Whether the character stands for itself wherever it is written in an address: letters and digits of
ASCII, hyphens and equals signs. -/
def isInert (c : Char) : Bool :=
  c.isAlphanum || c == '-' || c == '='

theorem toNat_lt_of_isInert {c : Char} (h : isInert c = true) : c.toNat < 128 := by
  have hupper (h : c.isUpper = true) : c.val ≤ 'Z'.val := (of_decide_eq_true h).2
  have hlower (h : c.isLower = true) : c.val ≤ 'z'.val :=
    of_decide_eq_true (Bool.and_eq_true_iff.1 h).2
  have hdigit (h : c.isDigit = true) : c.val ≤ '9'.val :=
    of_decide_eq_true (Bool.and_eq_true_iff.1 h).2
  have hbelow {last : UInt32} (h : c.val ≤ last) (hlast : last.toNat < 128) : c.toNat < 128 :=
    lt_of_le_of_lt (UInt32.le_iff_toNat_le.1 h) hlast
  simp only [isInert, Bool.or_eq_true, beq_iff_eq] at h
  obtain (h | rfl) | rfl := h
  · obtain (h | h) | h := (Bool.or_eq_true_iff.1 h).imp_left Bool.or_eq_true_iff.1
    · exact hbelow (hupper h) (by decide)
    · exact hbelow (hlower h) (by decide)
    · exact hbelow (hdigit h) (by decide)
  · decide
  · decide

/-- None of the characters that are treated in some way is among them. -/
theorem isInert_facts {c : Char} (h : isInert c = true) :
    isEdge c = false ∧ isMark c = false ∧ c ≠ '%' ∧ c ≠ '.' ∧ c.toNat < 0x7f ∧ pathSet c = false ∧
      ∀ form : Form, form.querySet c = false := by
  have hall : ∀ n, n < 128 → isInert (Char.ofNat n) = true →
      isEdge (Char.ofNat n) = false ∧ isMark (Char.ofNat n) = false ∧ Char.ofNat n ≠ '%' ∧
        Char.ofNat n ≠ '.' ∧ (Char.ofNat n).toNat < 0x7f ∧ pathSet (Char.ofNat n) = false ∧
        querySet (Char.ofNat n) = false ∧ Char.ofNat n ≠ '\'' := by decide +kernel
  have hc := hall c.toNat (toNat_lt_of_isInert h)
  rw [Char.ofNat_toNat] at hc
  obtain ⟨hedge, hmark, hpercent, hdot, hlow, hpath, hquery, hquote⟩ := hc h
  refine ⟨hedge, hmark, hpercent, hdot, hlow, hpath, fun form => ?_⟩
  rw [Form.querySet, hquery, beq_eq_false_iff_ne.2 hquote]
  rfl

variable {s : List Char} (h : ∀ c ∈ s, isInert c = true)
include h

theorem percentEncode_of_isInert {set : Char → Bool} (hset : ∀ c ∈ s, set c = false) :
    percentEncode set s = s := by
  induction s with
  | nil => rfl
  | cons c s ih =>
    obtain ⟨hedge, -, -, -, hlow, -⟩ := isInert_facts (h c List.mem_cons_self)
    rw [isEdge, decide_eq_false_iff_not] at hedge
    have hwritten : written set c = [c] := by
      refine if_neg ?_
      simp only [hset c List.mem_cons_self, Bool.or_false, Bool.or_eq_true, decide_eq_true_eq]
      omega
    rw [percentEncode_cons, hwritten, ih (fun d hd => h d (List.mem_cons_of_mem _ hd))
      fun d hd => hset d (List.mem_cons_of_mem _ hd)]
    rfl

theorem isPlain_of_isInert : isPlain s = true := by
  have hdot : ∀ {t : List Char}, '.' ∈ t → s ≠ t := by
    rintro t ht rfl
    exact (isInert_facts (h '.' ht)).2.2.2.1 rfl
  refine isPlain_iff.2 ⟨fun c hc => (isInert_facts (h c hc)).2.1, ?_, hdot (by decide), hdot (by decide)⟩
  exact hasWrittenByte_of_not_mem fun hpercent => (isInert_facts (h '%' hpercent)).2.2.1 rfl

end Inert

end Url
end AzureProvisioning
