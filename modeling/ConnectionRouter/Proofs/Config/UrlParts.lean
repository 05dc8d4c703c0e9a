import ConnectionRouter.Config.Url
import Mathlib.Data.List.Basic

/-!
# The parts of a connection URL

A connection URL is written from a scheme, a user, hosts, a database and a query; user, database and
query may be missing with the character that sets them off. The parts can be told apart if no part
holds a character that would end it (`Url.Parts`).

* `Url.exists_parts`: every text with a supported scheme is written from such parts.
* `Config.ofUrl_text`: what a URL describes depends on its hosts and its query alone. Blanks at its
  end belong to its last part, which may be any of them.
* `Config.ofUrl_ignores_credentials`: user and database have no influence.
-/

namespace ConnectionRouter

open Text

/-! ## Blanks at the end -/

namespace Text

theorem trimEnd_append_of_finish {s : List Char} {c : Char} (hc : s.getLast? = some c)
    (hblank : isBlank c = false) (t : List Char) : trimEnd (s ++ t) = s ++ trimEnd t := by
  have hs : trimEnd s = s := trimEnd_eq_self s fun d hd => by
    rw [hc] at hd
    cases hd
    exact hblank
  rw [trimEnd, List.reverse_append, List.dropWhile_append]
  split
  · rename_i hnil
    rw [← trimEnd, hs, trimEnd, List.isEmpty_iff.mp hnil, List.reverse_nil, List.append_nil]
  · rw [List.reverse_append, List.reverse_reverse, trimEnd]

theorem blanks_of_trimEnd (s : List Char) : ∃ after, Blanks after ∧ s = trimEnd s ++ after := by
  refine ⟨(s.reverse.takeWhile isBlank).reverse,
    fun c hc => blanks_takeWhile _ c (List.mem_reverse.mp hc), ?_⟩
  rw [trimEnd, ← List.reverse_append, List.takeWhile_append_dropWhile, List.reverse_reverse]

theorem not_mem_trimEnd {s : List Char} {c : Char} (h : c ∉ s) : c ∉ trimEnd s := by
  obtain ⟨after, -, hs⟩ := blanks_of_trimEnd s
  intro hmem
  rw [hs] at h
  exact h (List.mem_append_left _ hmem)

theorem intercalate_concat_append (sep : Char) (pieces : List (List Char)) (last t : List Char) :
    [sep].intercalate (pieces ++ [last ++ t]) = [sep].intercalate (pieces ++ [last]) ++ t := by
  induction pieces with
  | nil => simp [List.intercalate_singleton]
  | cons piece pieces ih =>
    cases pieces with
    | nil => simp [List.intercalate_cons_cons, List.intercalate_singleton]
    | cons next pieces =>
      rw [List.cons_append, List.cons_append, List.intercalate_cons_cons, ← List.cons_append, ih]
      simp [List.intercalate_cons_cons]

/-- What holds no separator lengthens the last piece. -/
theorem splitOn_append_of_not_mem {sep : Char} {t : List Char} (h : sep ∉ t) (s : List Char) :
    ∃ pieces last, s.splitOn sep = pieces ++ [last] ∧
      (s ++ t).splitOn sep = pieces ++ [last ++ t] := by
  obtain ⟨pieces, last, hs⟩ :=
    (List.eq_nil_or_concat' (s.splitOn sep)).resolve_left (List.splitOn_ne_nil sep s)
  obtain ⟨htext, -, hfree⟩ := splitOn_eq_iff.mp hs
  refine ⟨pieces, last, hs, splitOn_eq_iff.mpr ⟨?_, by simp, ?_⟩⟩
  · rw [intercalate_concat_append, ← htext]
  · intro piece hpiece
    rcases List.mem_append.mp hpiece with hpiece | hpiece
    · exact hfree piece (List.mem_append_left _ hpiece)
    · rw [List.mem_singleton.mp hpiece, List.mem_append, not_or]
      exact ⟨hfree last (by simp), h⟩

/-- Blanks at the end of a text are trimmed from its last piece. -/
theorem map_trim_splitOn_trimEnd {sep : Char} (h : isBlank sep = false) (s : List Char) :
    ((trimEnd s).splitOn sep).map trim = (s.splitOn sep).map trim := by
  obtain ⟨after, hafter, hs⟩ := blanks_of_trimEnd s
  obtain ⟨pieces, last, hshort, hlong⟩ := splitOn_append_of_not_mem (hafter.not_mem h) (trimEnd s)
  have hnone : Blanks [] := fun _ hc => nomatch hc
  have hlast : trim (last ++ after) = trim last := trim_blanks last hnone hafter
  rw [← hs] at hlong
  rw [hshort, hlong, List.map_append, List.map_append, List.map_singleton, List.map_singleton,
    hlast]

end Text

/-! ## Parts -/

namespace Url

/-- The spellings of the scheme. -/
inductive Scheme
  | postgresql
  | postgres
  deriving DecidableEq

def Scheme.text : Scheme → List Char
  | postgresql => "postgresql://".toList
  | postgres => "postgres://".toList

/-- What a URL is written from. No part holds a character that would end it. -/
structure Parts where
  /-- Whether `r2dbc:` stands before the scheme. -/
  wrapped : Bool
  scheme : Scheme
  /-- The user and the password, if there is an `@` behind them. -/
  user : Option (List Char)
  hosts : List Char
  /-- What follows a `/`. -/
  database : Option (List Char)
  /-- What follows a `?`. -/
  query : Option (List Char)
  user_free : ∀ s, user = some s → '/' ∉ s ∧ '?' ∉ s
  hosts_free : '@' ∉ hosts ∧ '/' ∉ hosts ∧ '?' ∉ hosts
  database_free : ∀ s, database = some s → '?' ∉ s

/-- What stands before the authority. -/
def lead (wrapped : Bool) (scheme : Scheme) : List Char :=
  (if wrapped then "r2dbc:".toList else []) ++ scheme.text

namespace Parts

/-- The user and the hosts. -/
def authority (p : Parts) : List Char := p.user.elim p.hosts (· ++ '@' :: p.hosts)

/-- The database with its `/`. -/
def path (p : Parts) : List Char := p.database.elim [] ('/' :: ·)

/-- The query with its `?`. -/
def search (p : Parts) : List Char := p.query.elim [] ('?' :: ·)

def rest (p : Parts) : List Char := p.authority ++ (p.path ++ p.search)

/-- The URL that the parts make up. -/
def text (p : Parts) : List Char := lead p.wrapped p.scheme ++ p.rest

end Parts

/-! ## Reading the parts -/

theorem readScheme_eq_some_iff {s rest : List Char} :
    ("postgresql://".toList.isPrefixOf? s).or ("postgres://".toList.isPrefixOf? s) = some rest ↔
      ∃ scheme : Scheme, s = scheme.text ++ rest := by
  rw [Option.or_eq_some_iff, List.isPrefixOf?_eq_some_iff_append_eq,
    List.isPrefixOf?_eq_some_iff_append_eq]
  constructor
  · rintro (h | ⟨-, h⟩)
    · exact ⟨.postgresql, h.symm⟩
    · exact ⟨.postgres, h.symm⟩
  · rintro ⟨scheme | _, rfl⟩
    · exact .inl rfl
    · -- the spellings part at the `q`
      exact .inr ⟨rfl, rfl⟩

theorem afterScheme?_eq_some_iff {s rest : List Char} :
    afterScheme? s = some rest ↔ ∃ wrapped scheme, s = lead wrapped scheme ++ rest := by
  unfold afterScheme?
  dsimp only
  rw [readScheme_eq_some_iff]
  cases h : "r2dbc:".toList.isPrefixOf? s with
  | some t =>
    obtain rfl := List.isPrefixOf?_eq_some_iff_append_eq.mp h
    constructor
    · rintro ⟨scheme, hs⟩
      rw [Option.getD_some] at hs
      exact ⟨true, scheme, by rw [hs, lead, if_pos rfl, List.append_assoc]⟩
    · rintro ⟨wrapped, scheme, hs⟩
      refine ⟨scheme, ?_⟩
      cases wrapped with
      | true =>
        rw [lead, if_pos rfl, List.append_assoc] at hs
        exact List.append_cancel_left hs
      | false => cases scheme <;> cases hs
  | none =>
    constructor
    · rintro ⟨scheme, hs⟩
      exact ⟨false, scheme, hs⟩
    · rintro ⟨wrapped, scheme, hs⟩
      refine ⟨scheme, ?_⟩
      cases wrapped with
      | true =>
        rw [lead, if_pos rfl, List.append_assoc] at hs
        rw [List.isPrefixOf?_eq_some_iff_append_eq.mpr hs.symm] at h
        cases h
      | false => exact hs

theorem endsAuthority_eq_false {s : List Char} (h : '/' ∉ s ∧ '?' ∉ s) {c : Char} (hc : c ∈ s) :
    endsAuthority c = false := by
  simp only [endsAuthority, Bool.or_eq_false_iff, decide_eq_false_iff_not]
  exact ⟨fun he => h.1 (he ▸ hc), fun he => h.2 (he ▸ hc)⟩

namespace Parts

variable (p : Parts)

theorem endsAuthority_authority {c : Char} (h : c ∈ p.authority) : endsAuthority c = false := by
  have hhosts : ∀ c ∈ p.hosts, endsAuthority c = false := fun c hc =>
    endsAuthority_eq_false p.hosts_free.2 hc
  unfold authority at h
  cases hu : p.user with
  | none =>
    rw [hu] at h
    exact hhosts c h
  | some user =>
    rw [hu] at h
    rcases List.mem_append.mp h with h | h
    · exact endsAuthority_eq_false (p.user_free user hu) h
    · rcases List.mem_cons.mp h with rfl | h
      · decide
      · exact hhosts c h

/-- What follows the authority starts with a character that ends it. -/
theorem takeWhile_tail : (p.path ++ p.search).takeWhile (!endsAuthority ·) = [] := by
  unfold path search
  cases p.database <;> cases p.query <;> rfl

theorem takeWhile_rest : p.rest.takeWhile (!endsAuthority ·) = p.authority := by
  rw [rest, List.takeWhile_append_of_pos, takeWhile_tail, List.append_nil]
  intro c hc
  rw [endsAuthority_authority p hc, Bool.not_false]

theorem dropWhile_rest : p.rest.dropWhile (!endsAuthority ·) = p.path ++ p.search :=
  List.append_cancel_left <| by
    rw [List.takeWhile_append_dropWhile, takeWhile_rest, rest]

theorem hosts_rest : Url.hosts p.rest = p.hosts.splitOn ',' := by
  rw [Url.hosts, takeWhile_rest]
  unfold authority
  cases p.user with
  | none => rw [Option.elim_none, cutLast_eq_none_iff.mpr p.hosts_free.1]; rfl
  | some user => rw [Option.elim_some, cutLast_eq_some_iff.mpr ⟨rfl, p.hosts_free.1⟩]; rfl

theorem query_rest : Url.query p.rest = p.query.getD [] := by
  have hpath : '?' ∉ p.path := by
    unfold path
    cases hd : p.database with
    | none => exact List.not_mem_nil
    | some s =>
      exact List.not_mem_cons_of_ne_of_not_mem (by decide) (p.database_free s hd)
  rw [Url.query, dropWhile_rest]
  unfold search
  cases p.query with
  | none => rw [Option.elim_none, List.append_nil, cutFirst_eq_none_iff.mpr hpath]; rfl
  | some s => rw [Option.elim_some, cutFirst_eq_some_iff.mpr ⟨rfl, hpath⟩]; rfl

end Parts

theorem exists_authority {s : List Char} (h : '/' ∉ s ∧ '?' ∉ s) :
    ∃ (user : Option (List Char)) (hosts : List Char), s = user.elim hosts (· ++ '@' :: hosts) ∧
      (∀ u, user = some u → '/' ∉ u ∧ '?' ∉ u) ∧ '@' ∉ hosts ∧ '/' ∉ hosts ∧ '?' ∉ hosts := by
  cases hcut : cutLast '@' s with
  | none => exact ⟨none, s, rfl, by simp, cutLast_eq_none_iff.mp hcut, h⟩
  | some cut =>
    obtain ⟨user, hosts⟩ := cut
    obtain ⟨rfl, hat⟩ := cutLast_eq_some_iff.mp hcut
    simp only [List.mem_append, List.mem_cons, not_or] at h
    obtain ⟨⟨hslash, -, hslash'⟩, hquery, -, hquery'⟩ := h
    refine ⟨some user, hosts, rfl, ?_, hat, hslash', hquery'⟩
    rintro u ⟨rfl⟩
    exact ⟨hslash, hquery⟩

/-- A text that starts with a slash, if it starts at all, is a database or none. -/
theorem exists_path {s : List Char} (h : ∀ c, s.head? = some c → endsAuthority c = true)
    (hquery : '?' ∉ s) : ∃ database : Option (List Char), s = database.elim [] ('/' :: ·) ∧
      ∀ d, database = some d → '?' ∉ d := by
  cases s with
  | nil => exact ⟨none, rfl, by simp⟩
  | cons c s =>
    have hc : c = '/' := by
      simpa [endsAuthority, (List.ne_of_not_mem_cons hquery).symm] using h c rfl
    refine ⟨some s, by rw [hc]; rfl, ?_⟩
    rintro d ⟨rfl⟩
    exact List.not_mem_of_not_mem_cons hquery

theorem exists_tail {s : List Char} (h : ∀ c, s.head? = some c → endsAuthority c = true) :
    ∃ database query : Option (List Char),
      s = database.elim [] ('/' :: ·) ++ query.elim [] ('?' :: ·) ∧
        ∀ d, database = some d → '?' ∉ d := by
  cases hcut : cutFirst '?' s with
  | none =>
    obtain ⟨database, hs, hfree⟩ := exists_path h (cutFirst_eq_none_iff.mp hcut)
    exact ⟨database, none, by rw [Option.elim_none, List.append_nil, hs], hfree⟩
  | some cut =>
    obtain ⟨path, query⟩ := cut
    obtain ⟨rfl, hquery⟩ := cutFirst_eq_some_iff.mp hcut
    obtain ⟨database, hs, hfree⟩ := exists_path (fun c hc => h c (by simp [hc])) hquery
    exact ⟨database, some query, by rw [← hs]; rfl, hfree⟩

/-- Every text with a supported scheme is written from parts. -/
theorem exists_parts {s rest : List Char} (h : afterScheme? s = some rest) :
    ∃ p : Parts, s = p.text ∧ p.rest = rest := by
  obtain ⟨wrapped, scheme, rfl⟩ := afterScheme?_eq_some_iff.mp h
  have hends : ∀ c ∈ rest.takeWhile (!endsAuthority ·), endsAuthority c = false := fun c hc => by
    simpa using List.all_eq_true.mp List.all_takeWhile c hc
  obtain ⟨user, hosts, hauthority, huser, hhosts⟩ := exists_authority
    (s := rest.takeWhile (!endsAuthority ·))
    ⟨fun hc => absurd (hends _ hc) (by decide), fun hc => absurd (hends _ hc) (by decide)⟩
  obtain ⟨database, query, htail, hdatabase⟩ := exists_tail
    (s := rest.dropWhile (!endsAuthority ·)) fun c hc => by
      have hhead := List.head?_dropWhile_not (!endsAuthority ·) rest
      rw [hc] at hhead
      simpa using hhead
  let p : Parts := ⟨wrapped, scheme, user, hosts, database, query, huser, hhosts, hdatabase⟩
  have hrest : p.rest = rest := by
    rw [← List.takeWhile_append_dropWhile (p := (!endsAuthority ·)) (l := rest), hauthority, htail]
    rfl
  exact ⟨p, by rw [Parts.text, hrest], hrest⟩

/-! ## Blanks at the end of a URL -/

theorem head?_lead {wrapped : Bool} {scheme : Scheme} {c : Char}
    (h : (lead wrapped scheme).head? = some c) : isBlank c = false := by
  cases wrapped <;> cases scheme <;> cases h <;> decide

theorem getLast?_lead (wrapped : Bool) (scheme : Scheme) :
    (lead wrapped scheme).getLast? = some '/' := by
  cases wrapped <;> cases scheme <;> decide

namespace Parts

/-- The parts without the blanks at the end of the last one. -/
def trimmed (p : Parts) : Parts :=
  match hq : p.query, hd : p.database with
  | some query, _ => { p with query := some (trimEnd query) }
  | none, some database =>
    { p with
      database := some (trimEnd database)
      database_free := by
        rintro s ⟨rfl⟩
        exact not_mem_trimEnd (p.database_free database hd) }
  | none, none =>
    { p with
      hosts := trimEnd p.hosts
      hosts_free := p.hosts_free.imp not_mem_trimEnd (·.imp not_mem_trimEnd not_mem_trimEnd) }

theorem query_trimmed (p : Parts) : p.trimmed.query = p.query.map trimEnd := by
  unfold trimmed
  split <;> simp_all

/-- The hosts are the last part only if there is neither a database nor a query. -/
theorem hosts_trimmed (p : Parts) :
    p.trimmed.hosts = p.hosts ∨ p.trimmed.hosts = trimEnd p.hosts := by
  unfold trimmed
  split
  · exact .inl rfl
  · exact .inl rfl
  · exact .inr rfl

/-- No part is set off by a blank. -/
theorem trimEnd_text (p : Parts) : trimEnd p.text = p.trimmed.text := by
  have hset : ∀ (s t : List Char) {c : Char}, isBlank c = false →
      trimEnd (s ++ c :: t) = s ++ c :: trimEnd t := by
    intro s t c hc
    have he := trimEnd_append_of_finish (s := s ++ [c]) (by simp) hc t
    simpa using he
  unfold trimmed
  split
  · rename_i query hq
    simp only [text, rest, search, hq, Option.elim_some, ← List.append_assoc]
    exact hset _ _ (by decide)
  · rename_i database hq hd
    simp only [text, rest, path, search, hq, hd, Option.elim_some, Option.elim_none,
      List.append_nil, ← List.append_assoc]
    exact hset _ _ (by decide)
  · rename_i hq hd
    simp only [text, rest, authority, path, search, hq, hd, Option.elim_none, List.append_nil]
    cases p.user with
    | none => exact trimEnd_append_of_finish (getLast?_lead _ _) (by decide) p.hosts
    | some user =>
      simp only [Option.elim_some, ← List.append_assoc]
      exact hset _ _ (by decide)

/-- Blanks around a URL are trimmed, those at its end from its last part. -/
theorem trim_text (p : Parts) {before after : List Char} (hbefore : Blanks before)
    (hafter : Blanks after) : trim (before ++ p.text ++ after) = p.trimmed.text := by
  have hstart : trimStart p.text = p.text := by
    obtain ⟨c, s, hs⟩ : ∃ c s, lead p.wrapped p.scheme = c :: s := by
      cases p.wrapped <;> cases p.scheme <;> exact ⟨_, _, rfl⟩
    have hblank : isBlank c = false := head?_lead (by rw [hs]; rfl)
    rw [trimStart, text, hs, List.cons_append, List.dropWhile_cons_of_neg (by simp [hblank])]
  rw [trim_blanks _ hbefore hafter, trim, hstart, trimEnd_text]

end Parts

end Url

/-! ## What a URL describes -/

theorem HostAddr.parse_trim (s : List Char) (d : UInt16) :
    HostAddr.parse (String.ofList (trim s)) d = HostAddr.parse (String.ofList s) d := by
  simp only [HostAddr.parse, String.toList_ofList, trim_trim]

namespace Config

/-- The configuration of hosts and a query. -/
def ofHosts (hosts query : List Char) : Except RoutingError Config := do
  let addrs ← (hosts.splitOn ',').mapM fun h => HostAddr.parse (String.ofList h) standardPort
  let base : Config :=
    { cluster := { seeds := addrs.map HostAddr.text }, loadBalance := { enabled := false } }
  (FormEncoding.pairs query).foldlM set base

theorem ofUrl_of_trim_eq {url : String} {p : Url.Parts} (h : trim url.toList = p.text) :
    ofUrl url = ofHosts p.hosts (p.query.getD []) := by
  have hscheme : Url.afterScheme? (trim url.toList) = some p.rest :=
    Url.afterScheme?_eq_some_iff.mpr ⟨p.wrapped, p.scheme, h⟩
  simp only [ofUrl, hscheme, p.hosts_rest, p.query_rest, ofHosts]

/-- Blanks at the end of the hosts do not matter. -/
theorem ofHosts_trimEnd (hosts query : List Char) :
    ofHosts (trimEnd hosts) query = ofHosts hosts query := by
  have hread : ∀ s : List Char,
      ((s.splitOn ',').mapM fun h => HostAddr.parse (String.ofList h) standardPort) =
        ((s.splitOn ',').map trim).mapM fun h => HostAddr.parse (String.ofList h) standardPort := by
    intro s
    rw [List.mapM_map]
    simp only [Function.comp_def, HostAddr.parse_trim]
  unfold ofHosts
  rw [hread, map_trim_splitOn_trimEnd (by decide), ← hread]

/-- A URL is read through its hosts and its query alone. -/
theorem ofUrl_text (p : Url.Parts) {before after : List Char} (hbefore : Blanks before)
    (hafter : Blanks after) : ofUrl (String.ofList (before ++ p.text ++ after)) =
      ofHosts p.hosts ((p.query.map trimEnd).getD []) := by
  have htrim := p.trim_text hbefore hafter
  rw [ofUrl_of_trim_eq (p := p.trimmed) (by rw [String.toList_ofList, htrim]), p.query_trimmed]
  rcases p.hosts_trimmed with h | h <;> rw [h]
  exact ofHosts_trimEnd _ _

/-- **User and database have no influence.** Two URLs of the same hosts and the same query describe
the same configuration, or are refused with the same error, whatever stands before the last `@` and
behind the first slash, if anything does. -/
theorem ofUrl_ignores_credentials (p q : Url.Parts) {before after before' after' : List Char}
    (blanks : Blanks before ∧ Blanks after) (blanks' : Blanks before' ∧ Blanks after')
    (hosts_eq : p.hosts = q.hosts) (query_eq : p.query = q.query) :
    ofUrl (String.ofList (before ++ p.text ++ after)) =
      ofUrl (String.ofList (before' ++ q.text ++ after')) := by
  rw [ofUrl_text p blanks.1 blanks.2, ofUrl_text q blanks'.1 blanks'.2, hosts_eq, query_eq]

/-- A password that looks like hosts, and a database that looks like a user, beside neither. The
second host is refused, and the error tells nothing else. -/
theorem ofUrl_ignores_credentials_hostlikePassword :
    ofUrl "r2dbc:postgresql://me:@h1:1,h2@a:1,b:x /me@db/c" = ofUrl " postgres://a:1,b:x " ∧
      ofUrl " postgres://a:1,b:x " = .error (.configuration (.hostAddress "b:x")) := by
  let p : Url.Parts :=
    ⟨true, .postgresql, some "me:@h1:1,h2".toList, "a:1,b:x ".toList, some "me@db/c".toList, none,
      by decide, by decide, by decide⟩
  let q : Url.Parts :=
    ⟨false, .postgres, none, "a:1,b:x ".toList, none, none, by decide, by decide, by decide⟩
  have hp : String.ofList ([] ++ p.text ++ []) =
      "r2dbc:postgresql://me:@h1:1,h2@a:1,b:x /me@db/c" := by decide +kernel
  have hq : String.ofList ([' '] ++ q.text ++ []) = " postgres://a:1,b:x " := by decide +kernel
  have hblank : Blanks [' '] := by simp [Blanks]; decide
  have hnone : Blanks [] := by simp [Blanks]
  refine ⟨?_, by decide +kernel⟩
  rw [← hp, ← hq]
  exact ofUrl_ignores_credentials p q ⟨hnone, hnone⟩ ⟨hblank, hnone⟩ rfl rfl

end Config

end ConnectionRouter
