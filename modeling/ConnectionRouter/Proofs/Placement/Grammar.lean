import ConnectionRouter.Proofs.Placement.Written

/-!
# The grammar of preferences

A preference is a list of entries between commas. An entry is a pattern and, behind a colon, its
rank; blanks may stand around both. A pattern is three components between dots, a rank a numeral
from 1 to 10. Blanks inside a pattern belong to it.

* `Preference.Spells`: the texts with the entries that they spell, rule by rule.
* `Preference.entries_eq_ok_iff_spells`: the parser reads the entries that a text spells.
* `Preference.accepts_grammar`: which texts are accepted, and what an accepted text declares.
-/

namespace ConnectionRouter

open Text

namespace Placement

/-! ## Patterns -/

theorem IsPattern.cloud_ne_nil {p : Placement} (h : p.IsPattern) : p.cloud.toList ≠ [] :=
  h.ne_nil _ List.mem_cons_self

theorem IsPattern.zone_ne_nil {p : Placement} (h : p.IsPattern) : p.zone.toList ≠ [] :=
  h.ne_nil _ (by simp [components])

/-- The ends of a pattern are those of its outer components. -/
theorem IsPattern.trimmed_text_iff {p : Placement} (h : p.IsPattern) :
    Trimmed p.text.toList ↔ (∀ c, p.cloud.toList.head? = some c → isBlank c = false) ∧
      ∀ c, p.zone.toList.getLast? = some c → isBlank c = false := by
  have hstart : p.text.toList.head? = p.cloud.toList.head? := by
    simp only [text, String.toList_append, List.append_assoc]
    exact List.head?_append_of_ne_nil _ h.cloud_ne_nil
  have hfinish : p.text.toList.getLast? = p.zone.toList.getLast? := by
    simp only [text, String.toList_append]
    exact List.getLast?_append_of_ne_nil _ h.zone_ne_nil
  constructor
  · intro ht
    exact ⟨hstart ▸ ht.start, hfinish ▸ ht.finish⟩
  · rintro ⟨hs, hf⟩
    exact ⟨hstart ▸ hs, hfinish ▸ hf⟩

/-- A pattern that can be written as part of an entry: no blank stands at either end of it, and
none of the separators around it inside. -/
structure Writable (p : Placement) : Prop extends IsPattern p where
  start : ∀ c, p.cloud.toList.head? = some c → isBlank c = false
  finish : ∀ c, p.zone.toList.getLast? = some c → isBlank c = false
  colon_not_mem : ':' ∉ p.text.toList
  comma_not_mem : ',' ∉ p.text.toList

theorem Writable.trimmed {p : Placement} (h : p.Writable) : Trimmed p.text.toList :=
  h.toIsPattern.trimmed_text_iff.mpr ⟨h.start, h.finish⟩

end Placement

namespace Preference

/-! ## Entries -/

/-- The texts that spell an entry: a pattern between blanks, with rank 1, or behind it a colon and
the numeral of its rank between blanks. -/
inductive Entry.Spells : List Char → Entry → Prop
  | unranked {before after : List Char} {pattern : Placement} (hbefore : Blanks before)
    (hafter : Blanks after) (hpattern : pattern.Writable) :
    Spells (before ++ pattern.text.toList ++ after) ⟨pattern, 1⟩
  | ranked {before after before' after' numeral : List Char} {pattern : Placement} {rank : Nat}
    (hbefore : Blanks before) (hafter : Blanks after) (hpattern : pattern.Writable)
    (hbefore' : Blanks before') (hafter' : Blanks after') (denotes : IntNumeral numeral rank)
    (one_le : 1 ≤ rank) (le : rank ≤ maxRank) :
    Spells (before ++ pattern.text.toList ++ after ++ ':' :: (before' ++ numeral ++ after'))
      ⟨pattern, rank⟩

theorem Entry.Legible.writable {e : Entry} (h : e.Legible) : e.pattern.Writable := by
  have htrimmed : Trimmed e.pattern.text.toList := h.trimmed ▸ trimmed_trim _
  obtain ⟨hstart, hfinish⟩ := h.pattern.trimmed_text_iff.mp htrimmed
  exact ⟨h.pattern, hstart, hfinish, h.colon_not_mem, h.comma_not_mem⟩

theorem Entry.Spells.reads {s : List Char} {e : Entry} (h : Entry.Spells s e) :
    Entry.Reads s e := by
  cases h with
  | @unranked before after pattern hbefore hafter hpattern =>
    have htrim : trim (before ++ pattern.text.toList ++ after) = pattern.text.toList :=
      trim_eq_iff.mpr ⟨hpattern.trimmed, before, after, hbefore, hafter, rfl⟩
    exact .unranked (by rw [htrim]; exact hpattern.colon_not_mem) htrim hpattern.toIsPattern
  | @ranked before after before' after' numeral pattern rank hbefore hafter hpattern hbefore' hafter'
      denotes one_le le =>
    have hne : pattern.text.toList ≠ [] := by simp [Placement.text]
    have htrim : trim (before ++ pattern.text.toList ++ after ++
        ':' :: (before' ++ numeral ++ after')) =
          (pattern.text.toList ++ after) ++ ':' :: (before' ++ numeral) := by
      refine trim_eq_iff.mpr ⟨?_, before, after', hbefore, hafter', by simp⟩
      have hends := hpattern.trimmed.append_append denotes.trimmed hne denotes.ne_nil
        (after ++ ':' :: before')
      simpa using hends
    have hpiece : trim (pattern.text.toList ++ after) = pattern.text.toList :=
      trim_eq_iff.mpr ⟨hpattern.trimmed, [], after, by simp [Blanks], hafter, rfl⟩
    have hnumeral : trim (before' ++ numeral) = numeral :=
      trim_eq_iff.mpr ⟨denotes.trimmed, before', [], hbefore', by simp [Blanks], by simp⟩
    have hcolon : ':' ∉ pattern.text.toList ++ after ∧ ':' ∉ before' ++ numeral := by
      simp only [List.mem_append, not_or]
      exact ⟨⟨hpattern.colon_not_mem, hafter.not_mem (by decide)⟩,
        hbefore'.not_mem (by decide), denotes.not_mem (by decide)⟩
    have hsmall : rank ≤ maxSigned := Nat.le_trans le (by decide)
    refine .ranked htrim hcolon hpiece hpattern.toIsPattern ?_ one_le le
    rw [hnumeral]
    exact readSigned64?_eq_some_iff.mpr ⟨denotes, by omega⟩

/-- No comma stands in the text of an entry. -/
theorem Entry.Spells.comma_not_mem {s : List Char} {e : Entry} (h : Entry.Spells s e) :
    ',' ∉ s := by
  cases h with
  | unranked hbefore hafter hpattern =>
    simp only [List.mem_append, not_or]
    exact ⟨⟨hbefore.not_mem (by decide), hpattern.comma_not_mem⟩, hafter.not_mem (by decide)⟩
  | ranked hbefore hafter hpattern hbefore' hafter' denotes one_le le =>
    simp only [List.mem_append, List.mem_cons, not_or]
    exact ⟨⟨⟨hbefore.not_mem (by decide), hpattern.comma_not_mem⟩, hafter.not_mem (by decide)⟩,
      by decide, ⟨hbefore'.not_mem (by decide), denotes.not_mem (by decide)⟩,
      hafter'.not_mem (by decide)⟩

/-- Blanks that the reader trims stand where the grammar has them. -/
theorem Entry.Reads.spells {s : List Char} {e : Entry} (h : Entry.Reads s e) (hcomma : ',' ∉ s) :
    Entry.Spells s e := by
  have hwritable := (h.legible hcomma).writable
  cases h with
  | unranked colon_not_mem named isPattern =>
    obtain ⟨-, before, after, hbefore, hafter, hs⟩ := trim_eq_iff.mp named
    rw [hs]
    exact .unranked hbefore hafter hwritable
  | @ranked piece numeral pattern rank cut colon_not_mem named isPattern denotes one_le le =>
    obtain ⟨-, before, after, hbefore, hafter, hs⟩ := trim_eq_iff.mp cut
    obtain ⟨-, before₁, after₁, hbefore₁, hafter₁, hpiece⟩ := trim_eq_iff.mp named
    obtain ⟨hnumeral, -⟩ := readSigned64?_eq_some_iff.mp denotes
    obtain ⟨-, before₂, after₂, hbefore₂, hafter₂, hrank⟩ :=
      trim_eq_iff.mp (rfl : trim numeral = trim numeral)
    have htext := Spells.ranked (hbefore.append hbefore₁) hafter₁ hwritable hbefore₂
      (hafter₂.append hafter) hnumeral one_le le
    rw [hs, hpiece, hrank]
    simpa using htext

/-! ## Texts -/

/-- The entries that a text spells between commas, one at least. -/
inductive Spells : List Char → List Entry → Prop
  | last {s : List Char} {e : Entry} (h : Entry.Spells s e) : Spells s [e]
  | more {s rest : List Char} {e : Entry} {es : List Entry} (h : Entry.Spells s e)
    (hrest : Spells rest es) : Spells (s ++ ',' :: rest) (e :: es)

/-- The texts between the commas. -/
def pieces (source : String) : List (List Char) := source.toList.splitOn ','

theorem entries_eq_ok_iff {source : String} {es : List Entry} :
    entries source = .ok es ↔ List.Forall₂ Entry.Reads (pieces source) es := by
  rw [entries, List.mapM_eq_ok_iff]
  simp only [Entry.parse_eq_ok_iff, pieces]

/-- A text is accepted if every piece of it declares an entry. -/
theorem exists_parse_iff {source : String} :
    (∃ p, parse source = .ok p) ↔ ∀ piece ∈ pieces source, ∃ e, Entry.Reads piece e := by
  rw [← List.exists_forall₂_iff]
  simp only [parse_eq_ok_iff, entries_eq_ok_iff]
  constructor
  · rintro ⟨_, es, hes, -⟩
    exact ⟨es, hes⟩
  · rintro ⟨es, hes⟩
    exact ⟨_, es, hes, rfl⟩

/-- Entries that the parser reads from pieces are spelled by the text that the pieces make up. -/
theorem spells_intercalate {pieces : List (List Char)} {es : List Entry}
    (h : List.Forall₂ Entry.Reads pieces es) (hne : pieces ≠ [])
    (hcomma : ∀ piece ∈ pieces, ',' ∉ piece) : Spells ([','].intercalate pieces) es := by
  induction h with
  | nil => exact absurd rfl hne
  | @cons piece e _ _ hread hrest ih =>
    have hspells := hread.spells (hcomma piece List.mem_cons_self)
    cases hrest with
    | nil =>
      rw [List.intercalate_singleton]
      exact .last hspells
    | cons hread' hrest' =>
      have hmore := ih (List.cons_ne_nil _ _) fun q hq => hcomma q (List.mem_cons_of_mem _ hq)
      rw [List.intercalate_cons_cons]
      simpa using Spells.more hspells hmore

theorem spells_iff {s : List Char} {es : List Entry} :
    Spells s es ↔ List.Forall₂ Entry.Reads (s.splitOn ',') es := by
  constructor
  · intro h
    induction h with
    | last h =>
      rw [splitOn_eq_singleton_iff.mpr ⟨rfl, h.comma_not_mem⟩]
      exact .cons h.reads .nil
    | more h hrest ih =>
      rw [List.splitOn_append_cons_self_of_not_mem h.comma_not_mem]
      exact .cons h.reads ih
  · intro h
    have hs : [','].intercalate (s.splitOn ',') = s := List.intercalate_splitOn ','
    rw [← hs]
    exact spells_intercalate h (List.splitOn_ne_nil _ _) fun _ => not_mem_of_mem_splitOn

/-- **The parser reads the entries that a text spells.** -/
theorem entries_eq_ok_iff_spells {source : String} {es : List Entry} :
    entries source = .ok es ↔ Spells source.toList es := by
  rw [entries_eq_ok_iff, spells_iff, pieces]

/-! ## Refused texts -/

open FailsOnConfiguration

theorem failsOnConfiguration_placement (s : String) :
    FailsOnConfiguration (Placement.parse s) := by
  unfold Placement.parse
  split
  · exact ok _
  · exact error _

theorem failsOnConfiguration_readRank (source : String) (raw : List Char) :
    FailsOnConfiguration (readRank source raw) := by
  unfold readRank
  split
  · exact error _
  · split
    · exact ok _
    · exact error _

theorem failsOnConfiguration_entry (source : String) (s : List Char) :
    FailsOnConfiguration (Entry.parse source s) := by
  unfold Entry.parse
  split
  · exact error _
  · split
    · exact (failsOnConfiguration_placement _).bind fun _ => ok _
    · exact (failsOnConfiguration_readRank _ _).bind fun _ =>
        (failsOnConfiguration_placement _).bind fun _ => ok _
    · exact error _

/-- A malformed preference text is a configuration error. -/
theorem failsOnConfiguration_parse (source : String) : FailsOnConfiguration (parse source) :=
  (FailsOnConfiguration.mapM (failsOnConfiguration_entry source) _).map _

/-- **A text is accepted exactly if the grammar spells it**; every other one is refused with a
configuration error. What an accepted text declares at a rank are the patterns that its entries give
this rank, each once, in the order of their first appearance; no tier is empty, and the text is
kept as it was given. -/
theorem accepts_grammar (source : String) :
    ((∃ p, parse source = .ok p) ↔ ∃ es, Spells source.toList es) ∧
    ((∀ es, ¬ Spells source.toList es) →
      ∃ fault, parse source = .error (.configuration fault)) ∧
    ∀ p es, parse source = .ok p → Spells source.toList es →
      p.source = source ∧ (∀ rank, p.tier rank = (patternsAt es rank).eraseDups) ∧
      ∀ (rank : Nat) (patterns : List Placement), p.tiers[rank]? = some patterns → patterns ≠ [] := by
  refine ⟨?_, fun hnone => ?_, fun p es accepted hspells => ?_⟩
  · simp only [parse_eq_ok_iff, entries_eq_ok_iff_spells]
    exact ⟨fun ⟨_, es, hes, _⟩ => ⟨es, hes⟩, fun ⟨es, hes⟩ => ⟨_, es, hes, rfl⟩⟩
  · refine (failsOnConfiguration_parse source).exists_fault fun p accepted => ?_
    obtain ⟨es, hes, -⟩ := parse_eq_ok_iff.mp accepted
    exact hnone es (entries_eq_ok_iff_spells.mp hes)
  · obtain ⟨es', hes', rfl⟩ := parse_eq_ok_iff.mp accepted
    -- A text spells one list of entries, so these are the ones that were read.
    have hread : .ok es' = Except.ok es :=
      hes'.symm.trans (entries_eq_ok_iff_spells.mpr hspells)
    cases hread
    refine ⟨rfl, fun rank => ?_, fun rank patterns htier => ?_⟩
    · rw [tier, ofEntries, getElem?_foldl_declare]
      split
      · rename_i hnil
        rw [hnil]
        rfl
      · rfl
    · exact (proper_foldl_declare es rank patterns htier).1

/-- Blanks around patterns and ranks, a sign and a leading zero, and patterns named twice. -/
theorem accepts_grammar_untidy :
    ∃ p, parse untidyKeys = .ok p ∧ p.source = untidyKeys ∧
      p.tier 1 = [⟨"gcp ", " eu", "b"⟩] ∧ p.tier 2 = [] ∧ p.tier 3 = [⟨"aws", "us west", "*"⟩] := by
  have hspells : Spells untidyKeys.toList [⟨⟨"aws", "us west", "*"⟩, 3⟩, ⟨⟨"gcp ", " eu", "b"⟩, 1⟩,
      ⟨⟨"aws", "us west", "*"⟩, 3⟩, ⟨⟨"gcp ", " eu", "b"⟩, 1⟩] :=
    entries_eq_ok_iff_spells.mp (by decide +kernel)
  obtain ⟨haccepts, -, hdeclares⟩ := accepts_grammar untidyKeys
  obtain ⟨p, accepted⟩ := haccepts.mpr ⟨_, hspells⟩
  obtain ⟨hsource, htier, -⟩ := hdeclares p _ accepted hspells
  exact ⟨p, accepted, hsource, (htier 1).trans (by decide +kernel),
    (htier 2).trans (by decide +kernel), (htier 3).trans (by decide +kernel)⟩

end Preference

end ConnectionRouter
