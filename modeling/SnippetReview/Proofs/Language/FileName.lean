import SnippetReview.Language
import SnippetReview.Proofs.Text.Lines

/-!
# The language of a file

A path tells a language by its last component, which has to be a stem with an extension of the
language behind it, whatever the case of its letters; and the stem has to have a character other
than a dot (`Tells`). This is said of the parts of a path and not of how they are found, and it is
exactly when the language is found (`ofFileName?_exact`):

* the last component is the one part without separators that has none or a separator before it
  (`isLastComponent_iff`);
* no extension has a dot within, so what is looked up is what follows the last dot
  (`extension?_eq_some_iff`);
* lower case changes neither dots nor separators, so the extension may be brought to lower case
  before or after it is cut off (`ofFileName?_map_toLower`).
-/

namespace SnippetReview

/-! ## Lower case -/

/-- Only a character that is no letter is brought to itself alone. -/
theorem Text.toLower_eq_iff {c x : Char} (hupper : ¬ (0x41 ≤ x.toNat ∧ x.toNat ≤ 0x5A))
    (hlower : ¬ (0x61 ≤ x.toNat ∧ x.toNat ≤ 0x7A)) : c.toLower = x ↔ c = x := by
  by_cases hc : 0x41 ≤ c.toNat ∧ c.toNat ≤ 0x5A
  · have hnat := Text.toNat_toLower hc
    constructor
    · rintro rfl
      omega
    · rintro rfl
      exact absurd hc hupper
  · rw [Text.toLower_eq_self hc]

theorem Text.lowerChar_toLower (c : Char) : lowerChar c.toLower = lowerChar c := by
  by_cases hc : 0x41 ≤ c.toNat ∧ c.toNat ≤ 0x5A
  · have hnat := Text.toNat_toLower hc
    have hdotted : c ≠ '\u0130' := by
      rintro rfl
      exact absurd hc (by decide)
    have hkelvin : c ≠ '\u212A' := by
      rintro rfl
      exact absurd hc (by decide)
    rw [Text.lowerChar_eq_self (by omega) (by omega) (by omega), lowerChar, if_neg hdotted,
      if_neg hkelvin]
  · rw [Text.toLower_eq_self hc]

theorem Text.toLower_map_toLower (s : Text) :
    Text.toLower (s.map Char.toLower) = Text.toLower s := by
  simp only [Text.toLower, List.flatMap_map, Text.lowerChar_toLower]

/-- A text is in lower case with a dot in front exactly if it has one there itself. -/
theorem Text.exists_of_toLower_eq_dot_cons {s t : Text} (h : Text.toLower s = '.' :: t) :
    ∃ rest, s = '.' :: rest ∧ Text.toLower rest = t := by
  cases s with
  | nil => exact absurd h (by simp)
  | cons c rest =>
    have hc : c = '.' := by
      have hmem : '.' ∈ lowerChar c := by
        rw [Text.toLower, List.flatMap_cons, lowerChar] at h
        rw [lowerChar]
        split_ifs at h ⊢ <;> simp_all
      rw [lowerChar] at hmem
      split_ifs at hmem with hdotted hkelvin
      · exact absurd hmem (by decide)
      · exact absurd hmem (by decide)
      · rw [List.mem_singleton] at hmem
        exact (Text.toLower_eq_iff (by decide) (by decide)).1 hmem.symm
    subst hc
    exact ⟨rest, rfl, (List.cons.inj h).2⟩

namespace Language

/-! ## The last component of a path -/

/-- A name is the last component of a path: there is no separator in it, and before it there is one,
unless it is the whole path. -/
structure IsLastComponent (name path : Text) : Prop where
  no_separator : ∀ c ∈ name, isPathSeparator c = false
  after_separator : ∃ dir, path = dir ++ name ∧ ∀ c ∈ dir.getLast?, isPathSeparator c = true

theorem isLastComponent_baseName (path : Text) : IsLastComponent (baseName path) path where
  no_separator c hc := by simpa using List.mem_rtakeWhile_imp hc
  after_separator := by
    refine ⟨path.rdropWhile fun c => !isPathSeparator c,
      List.rdropWhile_append_rtakeWhile.symm, ?_⟩
    intro c hc
    have hne : (path.rdropWhile fun c => !isPathSeparator c) ≠ [] := by
      intro hnil
      simp [hnil] at hc
    have hlast := List.rdropWhile_last_not (fun c => !isPathSeparator c) path hne
    rw [List.getLast?_eq_getLast_of_ne_nil hne, Option.mem_some_iff] at hc
    simpa [hc] using hlast

theorem IsLastComponent.baseName_eq {name path : Text} (h : IsLastComponent name path) :
    baseName path = name := by
  obtain ⟨hname, dir, rfl, hdir⟩ := h
  have hstop : dir.reverse.takeWhile (fun c => !isPathSeparator c) = [] := by
    rw [List.getLast?_eq_head?_reverse] at hdir
    cases hrev : dir.reverse with
    | nil => rfl
    | cons c rest =>
      rw [hrev] at hdir
      simp [hdir c rfl]
  rw [baseName, List.reverse_append, List.takeWhile_append_of_pos, hstop, List.append_nil,
    List.reverse_reverse]
  intro c hc
  rw [hname c (List.mem_reverse.1 hc)]
  rfl

theorem isLastComponent_iff {name path : Text} : IsLastComponent name path ↔ baseName path = name :=
  ⟨IsLastComponent.baseName_eq, fun h => h ▸ isLastComponent_baseName path⟩

/-- A directory before a path has no part in its last component. -/
theorem IsLastComponent.within {name path : Text} (h : IsLastComponent name path) (dir : Text)
    {sep : Char} (hsep : isPathSeparator sep = true) :
    IsLastComponent name (dir ++ sep :: path) := by
  obtain ⟨hname, inner, rfl, hinner⟩ := h
  refine ⟨hname, dir ++ sep :: inner, by simp, ?_⟩
  cases inner with
  | nil => simpa using hsep
  | cons c inner => simpa [List.getLast?_append, List.getLast?_cons_cons] using hinner

/-! ## The extension of a name -/

theorem extension?_of_no_dot {base : Text} (h : '.' ∉ base) : extension? base = none := by
  have hdrop : base.reverse.dropWhile (· != '.') = [] := by
    rw [List.dropWhile_eq_nil_iff]
    intro c hc
    rw [bne_iff_ne]
    rintro rfl
    exact h (List.mem_reverse.1 hc)
  rw [extension?, hdrop]

/-- What follows the last dot is the extension, unless there are only dots before. -/
theorem extension?_append {ext : Text} (h : '.' ∉ ext) (stem : Text) :
    extension? (stem ++ '.' :: ext) = if stem.all (· == '.') then none else some ext := by
  have hrev : (stem ++ '.' :: ext).reverse = ext.reverse ++ '.' :: stem.reverse := by simp
  have hext : ∀ c ∈ ext.reverse, (c != '.') = true := by
    intro c hc
    rw [bne_iff_ne]
    rintro rfl
    exact h (List.mem_reverse.1 hc)
  rw [extension?, hrev, List.dropWhile_append_of_pos hext, List.takeWhile_append_of_pos hext]
  simp

theorem exists_last_dot {base : Text} (h : '.' ∈ base) :
    ∃ stem ext, base = stem ++ '.' :: ext ∧ '.' ∉ ext := by
  obtain ⟨after, before, hrev, hdot⟩ := List.eq_append_cons_of_mem (List.mem_reverse.2 h)
  refine ⟨before.reverse, after.reverse, ?_, by simpa using hdot⟩
  rw [← List.reverse_reverse base, hrev]
  simp

theorem extension?_eq_some_iff {base ext : Text} :
    extension? base = some ext ↔
      ∃ stem, base = stem ++ '.' :: ext ∧ '.' ∉ ext ∧ ∃ c ∈ stem, c ≠ '.' := by
  constructor
  · intro h
    by_cases hdot : '.' ∈ base
    · obtain ⟨stem, ext', rfl, hext⟩ := exists_last_dot hdot
      rw [extension?_append hext] at h
      split_ifs at h with hall
      obtain rfl := Option.some.inj h
      refine ⟨stem, rfl, hext, ?_⟩
      simpa using hall
    · rw [extension?_of_no_dot hdot] at h
      exact absurd h (by simp)
  · rintro ⟨stem, rfl, hext, c, hc, hne⟩
    rw [extension?_append hext, if_neg]
    intro hall
    exact hne (by simpa using List.all_eq_true.1 hall c hc)

theorem ofExtension?_eq_some_iff {e : Text} {l : Language} :
    ofExtension? e = some l ↔ e ∈ l.extensions := by
  have hfound : ∀ l ∈ all, ∀ e ∈ l.extensions, ofExtension? e = some l := by decide
  constructor
  · intro h
    simpa using List.find?_some h
  · exact hfound l (by cases l <;> decide) e

/-! ## The language that a path tells -/

/-- A path tells a language: its last component is a stem that has a character other than a dot, and
behind it, in any case, a dot and an extension of the language. -/
def Tells (path : Text) (l : Language) : Prop :=
  ∃ stem ext, IsLastComponent (stem ++ ext) path
    ∧ (∃ e ∈ l.extensions, Text.toLower ext = '.' :: e) ∧ ∃ c ∈ stem, c ≠ '.'

theorem dot_not_mem_of_toLower {l : Language} {ext : Text} (h : Text.toLower ext ∈ l.extensions) :
    '.' ∉ ext := by
  have hnone : ∀ e ∈ l.extensions, '.' ∉ e := by cases l <;> decide
  intro hdot
  refine hnone _ h (List.mem_flatMap.2 ⟨'.', hdot, by decide⟩)

theorem ofFileName?_eq_some_iff {path : Text} {l : Language} :
    ofFileName? path = some l ↔ Tells path l := by
  rw [ofFileName?, Option.bind_eq_some_iff]
  constructor
  · rintro ⟨ext, hext, hlanguage⟩
    obtain ⟨stem, hbase, -, hstem⟩ := extension?_eq_some_iff.1 hext
    exact ⟨stem, '.' :: ext, isLastComponent_iff.2 hbase,
      ⟨Text.toLower ext, ofExtension?_eq_some_iff.1 hlanguage, rfl⟩, hstem⟩
  · rintro ⟨stem, ext, hlast, ⟨e, he, hlower⟩, hstem⟩
    obtain ⟨ext, rfl, rfl⟩ := Text.exists_of_toLower_eq_dot_cons hlower
    refine ⟨ext, extension?_eq_some_iff.2 ⟨stem, hlast.baseName_eq, ?_, hstem⟩,
      ofExtension?_eq_some_iff.2 he⟩
    exact dot_not_mem_of_toLower he

/-! ## Paths that tell the same -/

theorem ofFileName?_within (path dir : Text) {sep : Char} (hsep : isPathSeparator sep = true) :
    ofFileName? (dir ++ sep :: path) = ofFileName? path := by
  have hbase := ((isLastComponent_baseName path).within dir hsep).baseName_eq
  rw [ofFileName?, hbase, ofFileName?]

theorem dot_mem_map_toLower_iff {s : Text} : '.' ∈ s.map Char.toLower ↔ '.' ∈ s := by
  have hdot : ∀ c : Char, c.toLower = '.' ↔ c = '.' := fun c =>
    Text.toLower_eq_iff (by decide) (by decide)
  simp [hdot]

theorem baseName_map_toLower (path : Text) :
    baseName (path.map Char.toLower) = (baseName path).map Char.toLower := by
  have hsep : ∀ c : Char, isPathSeparator c.toLower = isPathSeparator c := by
    intro c
    rw [Bool.eq_iff_iff]
    simp [isPathSeparator, Text.toLower_eq_iff (c := c) (x := '/') (by decide) (by decide),
      Text.toLower_eq_iff (c := c) (x := '\\') (by decide) (by decide)]
  have hpred : ((fun c => !isPathSeparator c) ∘ Char.toLower) = fun c => !isPathSeparator c := by
    funext c
    simp [hsep]
  rw [baseName, ← List.map_reverse, List.takeWhile_map, hpred, ← List.map_reverse, baseName]

theorem extension?_map_toLower (base : Text) :
    extension? (base.map Char.toLower) = (extension? base).map (List.map Char.toLower) := by
  by_cases hdot : '.' ∈ base
  · obtain ⟨stem, ext, rfl, hext⟩ := exists_last_dot hdot
    have hall : (stem.map Char.toLower).all (· == '.') = stem.all (· == '.') := by
      rw [Bool.eq_iff_iff]
      simp [Text.toLower_eq_iff (x := '.') (by decide) (by decide)]
    have hmap : (stem ++ '.' :: ext).map Char.toLower
        = stem.map Char.toLower ++ '.' :: ext.map Char.toLower := by
      rw [List.map_append, List.map_cons]
      rfl
    rw [hmap, extension?_append (mt dot_mem_map_toLower_iff.1 hext), extension?_append hext, hall]
    split_ifs <;> rfl
  · rw [extension?_of_no_dot hdot, extension?_of_no_dot (mt dot_mem_map_toLower_iff.1 hdot)]
    rfl

/-- The case of ASCII letters does not matter. -/
theorem ofFileName?_map_toLower (path : Text) :
    ofFileName? (path.map Char.toLower) = ofFileName? path := by
  rw [ofFileName?, baseName_map_toLower, extension?_map_toLower, ofFileName?]
  cases extension? (baseName path) with
  | none => rfl
  | some ext => simp [Text.toLower_map_toLower]

/-- A name that has dots at its front alone tells no language. -/
theorem ofFileName?_of_dotFile {path dots name : Text} (hdots : ∀ c ∈ dots, c = '.')
    (hname : '.' ∉ name) (hlast : IsLastComponent (dots ++ name) path) :
    ofFileName? path = none := by
  have hext : extension? (dots ++ name) = none := by
    rcases List.eq_nil_or_concat dots with rfl | ⟨front, c, rfl⟩
    · exact extension?_of_no_dot hname
    · rw [List.concat_eq_append] at hdots ⊢
      obtain rfl : c = '.' := hdots c (by simp)
      rw [List.append_assoc, List.singleton_append, extension?_append hname, if_pos]
      rw [List.all_eq_true]
      intro x hx
      simpa using hdots x (List.mem_append_left _ hx)
  rw [ofFileName?, hlast.baseName_eq, hext, Option.bind_none]

/-- The language that is found is the one that the path tells, and none is found exactly if it tells
none. A directory in front does not matter, with whichever separator it ends, and neither does the
case of ASCII letters. A name that has dots at its front alone tells nothing. -/
theorem ofFileName?_exact (path : Text) :
    (∀ l, ofFileName? path = some l ↔ Tells path l)
      ∧ (ofFileName? path = none ↔ ∀ l, ¬ Tells path l)
      ∧ (∀ dir sep, isPathSeparator sep = true →
        ofFileName? (dir ++ sep :: path) = ofFileName? path)
      ∧ (∀ other : Text, other.map Char.toLower = path.map Char.toLower →
        ofFileName? other = ofFileName? path)
      ∧ (∀ dots name, (∀ c ∈ dots, c = '.') → '.' ∉ name → IsLastComponent (dots ++ name) path →
        ofFileName? path = none) := by
  refine ⟨fun l => ofFileName?_eq_some_iff, ?_, ?_, ?_, fun dots name => ofFileName?_of_dotFile⟩
  · rw [Option.eq_none_iff_forall_ne_some]
    exact forall_congr' fun l => not_congr ofFileName?_eq_some_iff
  · intro dir sep hsep
    exact ofFileName?_within path dir hsep
  · intro other hother
    rw [← ofFileName?_map_toLower other, hother, ofFileName?_map_toLower]

/-- A file with two dots in its name in a directory with one in its own, once in other letters and
with the other separator, and a dot file in a directory. -/
theorem ofFileName?_exact_directory :
    Tells "app.v2.TSX".toList typeScript
      ∧ ofFileName? "C:\\work.py\\app.v2.TSX".toList = some typeScript
      ∧ ofFileName? "work.py/APP.V2.tsX".toList = some typeScript
      ∧ ofFileName? "src/..js".toList = none := by
  have hfound : ofFileName? "app.v2.TSX".toList = some typeScript := by decide
  obtain ⟨hiff, -, hdirectory, hcase, -⟩ := ofFileName?_exact "app.v2.TSX".toList
  obtain ⟨-, -, hupper, -, -⟩ := ofFileName?_exact "APP.V2.tsX".toList
  obtain ⟨-, -, -, -, hdots⟩ := ofFileName?_exact "src/..js".toList
  refine ⟨(hiff typeScript).1 hfound, ?_, ?_, ?_⟩
  · exact (hdirectory "C:\\work.py".toList '\\' (by decide)).trans hfound
  · exact (hupper "work.py".toList '/' (by decide)).trans
      ((hcase "APP.V2.tsX".toList (by decide)).trans hfound)
  · exact hdots "..".toList "js".toList (by simp) (by decide)
      (isLastComponent_iff.2 (by decide))

end Language

end SnippetReview
