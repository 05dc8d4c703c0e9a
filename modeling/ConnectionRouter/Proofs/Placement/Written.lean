import ConnectionRouter.Proofs.Numeral
import ConnectionRouter.Proofs.Placement.Tiers
import ConnectionRouter.Proofs.Results
import ConnectionRouter.Text.Pieces

/-!
# Written preferences

A preference is written tier by tier, every pattern with its rank (`Preference.text`). Whatever
text a preference was read from, its written form is read as the same tiers
(`Preference.text_roundtrip`).

What is cut out of an accepted text holds no separator of the cuts it went through, and trimming
has taken the blanks from the ends of a pattern; a blank inside stands between two characters that
stay. So the written form is cut at the same places, and nothing is left to trim.

* `Placement.read?_eq_some_iff`: the texts that are read as a pattern.
* `Preference.Entry.Legible`: the entries that are read back, as every entry of a text is.
-/

namespace ConnectionRouter

open Text

namespace Placement

/-! ## Patterns -/

/-- The three parts of a pattern. -/
def components (p : Placement) : List (List Char) :=
  [p.cloud.toList, p.region.toList, p.zone.toList]

theorem toList_text (p : Placement) : p.text.toList = ['.'].intercalate p.components := by
  simp [text, components, List.intercalate_cons_cons, List.intercalate_singleton]

/-- A place that may stand as a pattern. -/
structure IsPattern (p : Placement) : Prop where
  ne_nil : ∀ c ∈ p.components, c ≠ []
  dot_not_mem : ∀ c ∈ p.components, '.' ∉ c
  cloud_ne : p.cloud ≠ wildcard
  region_ne : p.region ≠ wildcard

theorem splitOn_text {p : Placement} (h : p.IsPattern) :
    p.text.toList.splitOn '.' = p.components :=
  splitOn_eq_iff.mpr ⟨p.toList_text, List.cons_ne_nil _ _, h.dot_not_mem⟩

/-- **A text is read as a pattern exactly if it is the pattern's written form, up to blanks.** -/
theorem read?_eq_some_iff {s : List Char} {p : Placement} :
    read? s = some p ↔ trim s = p.text.toList ∧ p.IsPattern := by
  constructor
  · intro h
    unfold read? at h
    split at h
    · rename_i cloud region zone hsplit
      split at h
      · cases h
      · rename_i hparts
        cases h
        obtain ⟨htrim, -, hfree⟩ := splitOn_eq_iff.mp hsplit
        simp only [not_or] at hparts
        obtain ⟨hcloud, hregion, hzone, hcloud', hregion'⟩ := hparts
        refine ⟨by simpa [toList_text, components] using htrim, ?_, ?_, ?_, ?_⟩
        · simp [components, hcloud, hregion, hzone]
        · simpa [components] using hfree
        · rwa [ne_eq, ← String.toList_inj, String.toList_ofList]
        · rwa [ne_eq, ← String.toList_inj, String.toList_ofList]
    · cases h
  · rintro ⟨htrim, h⟩
    have hne := h.ne_nil
    have hcloud := h.cloud_ne
    have hregion := h.region_ne
    simp only [components, List.mem_cons, List.not_mem_nil, or_false, forall_eq_or_imp,
      forall_eq] at hne
    rw [ne_eq, ← String.toList_inj] at hcloud hregion
    rw [read?, htrim, splitOn_text h]
    simp only [components]
    rw [if_neg (by simp only [not_or]; exact ⟨hne.1, hne.2.1, hne.2.2, hcloud, hregion⟩)]
    simp only [String.ofList_toList]

theorem parse_eq_ok_iff {s : String} {p : Placement} :
    parse s = .ok p ↔ trim s.toList = p.text.toList ∧ p.IsPattern := by
  rw [← read?_eq_some_iff, parse]
  cases read? s.toList <;> simp

end Placement

namespace Preference

/-! ## Entries -/

/-- An entry as it is written, always with its rank. -/
def Entry.text (e : Entry) : String := e.pattern.text ++ ":" ++ toString e.rank

/-- The entries that are read back from their written form, between commas. -/
structure Entry.Legible (e : Entry) : Prop where
  pattern : e.pattern.IsPattern
  trimmed : trim e.pattern.text.toList = e.pattern.text.toList
  colon_not_mem : ':' ∉ e.pattern.text.toList
  comma_not_mem : ',' ∉ e.pattern.text.toList
  one_le_rank : 1 ≤ e.rank
  rank_le : e.rank ≤ maxRank

theorem readRank_eq_ok_iff {source : String} {raw : List Char} {rank : Nat} :
    readRank source raw = .ok rank ↔
      readSigned64? raw = some (rank : Int) ∧ 1 ≤ rank ∧ rank ≤ maxRank := by
  unfold readRank
  cases readSigned64? raw with
  | none => simp
  | some i =>
    simp only [Option.some.injEq]
    split
    · rename_i hrange
      simp only [Except.ok.injEq]
      omega
    · rename_i hrange
      simp only [reduceCtorEq, false_iff]
      omega

/-- A rank in range is read back from its digits. -/
theorem readRank_toString (source : String) {rank : Nat} (hone : 1 ≤ rank) (hmax : rank ≤ maxRank) :
    readRank source (toString rank).toList = .ok rank := by
  have hsigned : rank ≤ maxSigned := Nat.le_trans hmax (by decide)
  exact readRank_eq_ok_iff.mpr ⟨readSigned64?_toString hsigned, hone, hmax⟩

/-- The entry that a text declares: a pattern, and behind a colon its rank, which is 1 if the text
has no colon. -/
inductive Entry.Reads (s : List Char) : Entry → Prop
  | unranked {pattern : Placement} (colon_not_mem : ':' ∉ trim s)
    (named : trim s = pattern.text.toList) (isPattern : pattern.IsPattern) : Reads s ⟨pattern, 1⟩
  | ranked {piece numeral : List Char} {pattern : Placement} {rank : Nat}
    (cut : trim s = piece ++ ':' :: numeral) (colon_not_mem : ':' ∉ piece ∧ ':' ∉ numeral)
    (named : trim piece = pattern.text.toList) (isPattern : pattern.IsPattern)
    (denotes : readSigned64? (trim numeral) = some (rank : Int)) (one_le : 1 ≤ rank)
    (le : rank ≤ maxRank) : Reads s ⟨pattern, rank⟩

/-- **The parser reads the entries that texts declare**, whatever text they are part of. -/
theorem Entry.parse_eq_ok_iff {source : String} {s : List Char} {e : Entry} :
    Entry.parse source s = .ok e ↔ Entry.Reads s e := by
  constructor
  · intro h
    unfold Entry.parse at h
    split at h
    · cases h
    · split at h
      · rename_i piece hsplit
        obtain ⟨rfl, hcolon⟩ := splitOn_eq_singleton_iff.mp hsplit
        obtain ⟨pattern, hp, he⟩ := Except.bind_eq_ok_iff.mp h
        obtain ⟨htrim, hpattern⟩ := Placement.parse_eq_ok_iff.mp hp
        rw [String.toList_ofList, trim_trim] at htrim
        cases he
        exact .unranked hcolon htrim hpattern
      · rename_i piece raw hsplit
        obtain ⟨hcut, hcolon⟩ := splitOn_eq_pair_iff.mp hsplit
        obtain ⟨rank, hr, h⟩ := Except.bind_eq_ok_iff.mp h
        obtain ⟨pattern, hp, he⟩ := Except.bind_eq_ok_iff.mp h
        obtain ⟨htrim, hpattern⟩ := Placement.parse_eq_ok_iff.mp hp
        rw [String.toList_ofList] at htrim
        obtain ⟨hdenotes, hone, hmax⟩ := readRank_eq_ok_iff.mp hr
        cases he
        exact .ranked hcut hcolon htrim hpattern hdenotes hone hmax
      · cases h
  · intro h
    cases h with
    | @unranked pattern hcolon htrim hpattern =>
      have hp : Placement.parse (String.ofList (trim s)) = .ok pattern :=
        Placement.parse_eq_ok_iff.mpr ⟨by rw [String.toList_ofList, trim_trim, htrim], hpattern⟩
      have hne : trim s ≠ [] := by simp [htrim, Placement.text]
      rw [Entry.parse, if_neg hne, splitOn_eq_singleton_iff.mpr ⟨rfl, hcolon⟩]
      simp only
      rw [hp]
      rfl
    | @ranked piece numeral pattern rank hcut hcolon htrim hpattern hdenotes hone hmax =>
      have hp : Placement.parse (String.ofList piece) = .ok pattern :=
        Placement.parse_eq_ok_iff.mpr ⟨by rw [String.toList_ofList, htrim], hpattern⟩
      have hr : readRank source (trim numeral) = .ok rank :=
        readRank_eq_ok_iff.mpr ⟨hdenotes, hone, hmax⟩
      have hne : trim s ≠ [] := by simp [hcut]
      rw [Entry.parse, if_neg hne, splitOn_eq_pair_iff.mpr ⟨hcut, hcolon⟩]
      simp only
      rw [hr, hp]
      rfl

/-- Trimming and cutting a piece leaves a pattern that is read back. -/
theorem Entry.legible_of_named {s piece : List Char} {pattern : Placement} {rank : Nat}
    (hcomma : ',' ∉ s) (hsub : piece ⊆ s) (hcolon : ':' ∉ piece)
    (htrim : trim piece = pattern.text.toList) (hpattern : pattern.IsPattern) (hone : 1 ≤ rank)
    (hmax : rank ≤ maxRank) : Entry.Legible ⟨pattern, rank⟩ := by
  have hpart : pattern.text.toList ⊆ piece := htrim ▸ (trim_sublist piece).subset
  exact ⟨hpattern, by rw [← htrim, trim_trim], fun hc => hcolon (hpart hc),
    fun hc => hcomma (hsub (hpart hc)), hone, hmax⟩

/-- Every entry of an accepted text is legible. -/
theorem Entry.Reads.legible {s : List Char} {e : Entry} (h : Entry.Reads s e) (hcomma : ',' ∉ s) :
    e.Legible := by
  have hsub : trim s ⊆ s := (trim_sublist s).subset
  cases h with
  | unranked hcolon htrim hpattern =>
    exact legible_of_named hcomma hsub hcolon ((trim_trim s).trans htrim) hpattern
      (Nat.le_refl 1) (by decide)
  | ranked hcut hcolon htrim hpattern _ hone hmax =>
    refine legible_of_named hcomma (fun c hc => hsub ?_) hcolon.1 htrim hpattern hone hmax
    rw [hcut]
    exact List.mem_append_left _ hc

theorem Entry.toList_text (e : Entry) :
    e.text.toList = e.pattern.text.toList ++ ':' :: (toString e.rank).toList := by
  simp [text]

namespace Entry.Legible

variable {e : Entry} (h : e.Legible)
include h

theorem comma_not_mem_text : ',' ∉ e.text.toList := by
  rw [Entry.toList_text, List.mem_append, List.mem_cons]
  rintro (hc | hc | hc)
  · exact h.comma_not_mem hc
  · cases hc
  · exact absurd (isDigit_of_mem_toString hc) (by decide)

/-- A written entry starts as its pattern does and ends in a digit. -/
theorem trim_text : trim e.text.toList = e.text.toList := by
  have hpattern : Trimmed e.pattern.text.toList := h.trimmed ▸ trimmed_trim _
  have hne : e.pattern.text.toList ≠ [] := by simp [Placement.text]
  have htext : e.text.toList = e.pattern.text.toList ++ [':'] ++ (toString e.rank).toList := by
    simp [text]
  rw [htext]
  exact (hpattern.append_append (trimmed_toString _) hne (toList_toString_ne_nil _) _).trim_eq

theorem splitOn_text :
    e.text.toList.splitOn ':' = [e.pattern.text.toList, (toString e.rank).toList] := by
  refine splitOn_eq_iff.mpr ⟨?_, List.cons_ne_nil _ _, ?_⟩
  · rw [Entry.toList_text, List.intercalate_cons_cons, List.intercalate_singleton]
    simp
  · intro piece hpiece
    simp only [List.mem_cons, List.not_mem_nil, or_false] at hpiece
    rcases hpiece with rfl | rfl
    · exact h.colon_not_mem
    · exact fun hc => absurd (isDigit_of_mem_toString hc) (by decide)

/-- **A legible entry is read back from its written form**, whatever text it is part of. -/
theorem parse_text (source : String) : Entry.parse source e.text.toList = .ok e := by
  have hne : trim e.text.toList ≠ [] := by
    rw [h.trim_text, Entry.toList_text]
    simp
  have hpattern : Placement.parse (String.ofList e.pattern.text.toList) = .ok e.pattern :=
    Placement.parse_eq_ok_iff.mpr ⟨by rw [String.toList_ofList, h.trimmed], h.pattern⟩
  rw [Entry.parse, if_neg hne, h.trim_text, h.splitOn_text]
  simp only
  rw [(trimmed_toString _).trim_eq, readRank_toString source h.one_le_rank h.rank_le, hpattern]
  rfl

end Entry.Legible

/-! ## Preferences -/

/-- A preference as it is written, tier by tier. -/
def text (p : Preference) : String := ",".intercalate ((listed p.tiers).map Entry.text)

theorem parse_eq_ok_iff {source : String} {p : Preference} :
    parse source = .ok p ↔ ∃ es, entries source = .ok es ∧ p = ofEntries source es := by
  rw [parse]
  cases entries source <;> simp [Except.map, eq_comm]

/-- Every entry of an accepted text is legible. -/
theorem legible_of_entries {source : String} {es : List Entry} (h : entries source = .ok es) :
    ∀ e ∈ es, e.Legible := by
  intro e he
  obtain ⟨s, hs, hparse⟩ := List.exists_of_forall₂ (List.mapM_eq_ok_iff.mp h).flip he
  exact (Entry.parse_eq_ok_iff.mp hparse).legible (not_mem_of_mem_splitOn hs)

theorem entries_ne_nil {source : String} {es : List Entry} (h : entries source = .ok es) :
    es ≠ [] := by
  rintro rfl
  exact List.splitOn_ne_nil _ _ (List.forall₂_nil_right_iff.mp (List.mapM_eq_ok_iff.mp h))

/-- Legible entries between commas are read back. -/
theorem entries_intercalate {es : List Entry} (hne : es ≠ []) (h : ∀ e ∈ es, e.Legible) :
    entries (",".intercalate (es.map Entry.text)) = .ok es := by
  have hsplit : (",".intercalate (es.map Entry.text)).toList.splitOn ',' =
      es.map fun e => e.text.toList := by
    refine splitOn_eq_iff.mpr ⟨?_, by simpa using hne, ?_⟩
    · rw [String.toList_intercalate, List.map_map]
      rfl
    · rintro _ hmem
      obtain ⟨e, he, rfl⟩ := List.mem_map.mp hmem
      exact (h e he).comma_not_mem_text
  rw [entries, hsplit, List.mapM_eq_ok_iff, List.forall₂_map_left_iff, List.forall₂_same]
  exact fun e he => (h e he).parse_text _

/-- What tiers are like that an accepted text declares. -/
structure Written (tiers : Std.ExtTreeMap Nat (List Placement)) : Prop where
  proper : Proper tiers
  ne_nil : listed tiers ≠ []
  legible : ∀ e ∈ listed tiers, e.Legible

theorem written_of_parse {source : String} {p : Preference} (h : parse source = .ok p) :
    Written p.tiers := by
  obtain ⟨es, hes, rfl⟩ := parse_eq_ok_iff.mp h
  refine ⟨proper_foldl_declare es, ?_, fun e he =>
    legible_of_entries hes e (mem_listed_foldl.mp he)⟩
  obtain ⟨e, he⟩ := List.exists_mem_of_ne_nil es (entries_ne_nil hes)
  exact List.ne_nil_of_mem (mem_listed_foldl.mpr he)

/-- Tiers of an accepted text are read back from their written form. -/
theorem Written.parse_text {p : Preference} (h : Written p.tiers) :
    parse p.text = .ok ⟨p.text, p.tiers⟩ := by
  refine parse_eq_ok_iff.mpr ⟨listed p.tiers, entries_intercalate h.ne_nil h.legible, ?_⟩
  rw [ofEntries, foldl_declare_listed h.proper]

/-- **The written form of an accepted preference is accepted and declares the same tiers**, so that
it has as many and ranks every place alike. Written and read once more it stays as it is. -/
theorem text_roundtrip {source : String} {p : Preference} (accepted : parse source = .ok p) :
    ∃ q, parse p.text = .ok q ∧ q.tiers = p.tiers ∧ q.tierCount = p.tierCount ∧
      (∀ place, q.priorityOf place = p.priorityOf place) ∧ q.text = p.text ∧
      parse q.text = .ok q := by
  have hread := (written_of_parse accepted).parse_text
  exact ⟨⟨p.text, p.tiers⟩, hread, rfl, rfl, fun _ => rfl, rfl, hread⟩

/-- Blanks inside and outside of patterns, ranks out of order, and a pattern declared twice. -/
def untidyKeys : String := " aws.us west.* :+03 ,gcp . eu.b\u2003,aws.us west.*:3,gcp . eu.b:1"

theorem text_roundtrip_untidy :
    ∃ p q, parse untidyKeys = .ok p ∧ p.text = "gcp . eu.b:1,aws.us west.*:3" ∧
      parse "gcp . eu.b:1,aws.us west.*:3" = .ok q ∧ q.tiers = p.tiers := by
  let p : Preference := ofEntries untidyKeys
    [⟨⟨"aws", "us west", "*"⟩, 3⟩, ⟨⟨"gcp ", " eu", "b"⟩, 1⟩, ⟨⟨"aws", "us west", "*"⟩, 3⟩,
      ⟨⟨"gcp ", " eu", "b"⟩, 1⟩]
  have accepted : parse untidyKeys = .ok p := by decide +kernel
  have htext : p.text = "gcp . eu.b:1,aws.us west.*:3" := by decide +kernel
  obtain ⟨q, hq, htiers, -⟩ := text_roundtrip accepted
  exact ⟨p, q, accepted, htext, htext ▸ hq, htiers⟩

end Preference

end ConnectionRouter
