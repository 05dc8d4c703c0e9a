import ConnectionRouter.HostAddr
import ConnectionRouter.Proofs.Numeral
import Mathlib.Data.List.Basic

/-!
# The forms of an address

A trimmed text names an address in one of four forms: a host alone or a host with a port, each
plainly or with the host in brackets (`HostAddr.Names`). A plain host holds no colon and does not
start with a bracket, a host in brackets holds no closing one, and a port is a numeral of 16 bits.
A text has at most one form and names at most one address (`HostAddr.Names.unique`).

* `HostAddr.read?_eq_some_iff`: a text is read as the address that it names.
* `HostAddr.parse_eq_ok_iff`: the same of a whole text, blanks around it ignored.
* `HostAddr.parse_forms`: the grammar of addresses, with what is refused.
-/

namespace ConnectionRouter

open Text

namespace HostAddr

/-! ## The grammar -/

/-- The forms in which an address is written. -/
inductive Form
  | host
  | hostPort
  | bracketed
  | bracketedPort
  deriving DecidableEq

/-- The text `s` names a host and a port in some form; where it gives no port, the default one. -/
inductive Names (defaultPort : UInt16) (s host : List Char) : Form → UInt16 → Prop
  | host (text_eq : s = host) (ne_nil : host ≠ []) (colon : ':' ∉ host)
    (bracket : host.head? ≠ some '[') : Names defaultPort s host .host defaultPort
  | hostPort {numeral : List Char} {port : UInt16} (text_eq : s = host ++ ':' :: numeral)
    (ne_nil : host ≠ []) (colon : ':' ∉ host ∧ ':' ∉ numeral) (bracket : host.head? ≠ some '[')
    (denotes : NatNumeral numeral port.toNat) : Names defaultPort s host .hostPort port
  | bracketed (text_eq : s = '[' :: host ++ [']']) (ne_nil : host ≠ []) (closing : ']' ∉ host) :
    Names defaultPort s host .bracketed defaultPort
  | bracketedPort {numeral : List Char} {port : UInt16}
    (text_eq : s = '[' :: host ++ ']' :: ':' :: numeral) (ne_nil : host ≠ [])
    (closing : ']' ∉ host) (denotes : NatNumeral numeral port.toNat) :
    Names defaultPort s host .bracketedPort port

variable {d port port' : UInt16} {s host host' : List Char} {form form' : Form}

/-! ## Reading -/

theorem readBracketed?_eq_some_iff : readBracketed? d s = some (host, port) ↔
    host ≠ [] ∧ ']' ∉ host ∧ (s = host ++ [']'] ∧ port = d ∨
      ∃ numeral, s = host ++ ']' :: ':' :: numeral ∧ NatNumeral numeral port.toNat) := by
  constructor
  · intro h
    unfold readBracketed? at h
    split at h
    · cases h
    · cases h
    · rename_i name hne hcut
      cases h
      obtain ⟨hs, hclosing⟩ := cutFirst_eq_some_iff.mp hcut
      exact ⟨hne, hclosing, .inl ⟨hs, rfl⟩⟩
    · rename_i name numeral hne hcut
      obtain ⟨p, hport, hp⟩ := Option.map_eq_some_iff.mp h
      cases hp
      obtain ⟨hs, hclosing⟩ := cutFirst_eq_some_iff.mp hcut
      exact ⟨hne, hclosing, .inr ⟨numeral, hs, readPort?_eq_some_iff.mp hport⟩⟩
    · cases h
  · rintro ⟨hne, hclosing, hform⟩
    obtain ⟨c, t, rfl⟩ := List.exists_cons_of_ne_nil hne
    rcases hform with ⟨hs, rfl⟩ | ⟨numeral, hs, hnumeral⟩
    · rw [readBracketed?, cutFirst_eq_some_iff.mpr ⟨hs, hclosing⟩]
    · rw [readBracketed?, cutFirst_eq_some_iff.mpr ⟨hs, hclosing⟩]
      exact Option.map_eq_some_iff.mpr ⟨port, readPort?_eq_some_iff.mpr hnumeral, rfl⟩

theorem readPlain?_eq_some_iff : readPlain? d s = some (host, port) ↔
    host ≠ [] ∧ ':' ∉ host ∧ (s = host ∧ port = d ∨
      ∃ numeral, s = host ++ ':' :: numeral ∧ NatNumeral numeral port.toNat) := by
  constructor
  · intro h
    unfold readPlain? at h
    split at h
    · rename_i hcut
      split at h
      · cases h
      · rename_i hne
        cases h
        exact ⟨hne, cutFirst_eq_none_iff.mp hcut, .inl ⟨rfl, rfl⟩⟩
    · cases h
    · rename_i name numeral hne hcut
      obtain ⟨p, hport, hp⟩ := Option.map_eq_some_iff.mp h
      cases hp
      obtain ⟨hs, hcolon⟩ := cutFirst_eq_some_iff.mp hcut
      exact ⟨hne, hcolon, .inr ⟨numeral, hs, readPort?_eq_some_iff.mp hport⟩⟩
  · rintro ⟨hne, hcolon, ⟨rfl, rfl⟩ | ⟨numeral, hs, hnumeral⟩⟩
    · rw [readPlain?, cutFirst_eq_none_iff.mpr hcolon]
      exact if_neg hne
    · obtain ⟨c, t, rfl⟩ := List.exists_cons_of_ne_nil hne
      rw [readPlain?, cutFirst_eq_some_iff.mpr ⟨hs, hcolon⟩]
      exact Option.map_eq_some_iff.mpr ⟨port, readPort?_eq_some_iff.mpr hnumeral, rfl⟩

theorem read?_of_head?_ne (h : s.head? ≠ some '[') : read? d s = readPlain? d s := by
  unfold read?
  split
  · exact absurd rfl h
  · rfl

/-- A text is read as the address that it names. -/
theorem read?_eq_some_iff : read? d s = some (host, port) ↔ ∃ form, Names d s host form port := by
  constructor
  · intro h
    by_cases hbracket : s.head? = some '['
    · obtain ⟨t, rfl⟩ := List.head?_eq_some_iff.mp hbracket
      obtain ⟨hne, hclosing, hform⟩ := readBracketed?_eq_some_iff.mp h
      rcases hform with ⟨rfl, rfl⟩ | ⟨numeral, rfl, hnumeral⟩
      · exact ⟨_, .bracketed rfl hne hclosing⟩
      · exact ⟨_, .bracketedPort rfl hne hclosing hnumeral⟩
    · rw [read?_of_head?_ne hbracket] at h
      obtain ⟨hne, hcolon, hform⟩ := readPlain?_eq_some_iff.mp h
      rcases hform with ⟨rfl, rfl⟩ | ⟨numeral, rfl, hnumeral⟩
      · exact ⟨_, .host rfl hne hcolon hbracket⟩
      · rw [List.head?_append_of_ne_nil _ hne] at hbracket
        exact ⟨_, .hostPort rfl hne ⟨hcolon, (IntNumeral.nat hnumeral).not_mem (by decide)⟩ hbracket hnumeral⟩
  · rintro ⟨_, h⟩
    cases h with
    | host text_eq ne_nil colon bracket =>
      rw [read?_of_head?_ne (text_eq ▸ bracket)]
      exact readPlain?_eq_some_iff.mpr ⟨ne_nil, colon, .inl ⟨text_eq, rfl⟩⟩
    | @hostPort numeral _ text_eq ne_nil colon bracket denotes =>
      have hbracket : s.head? ≠ some '[' := by
        rwa [text_eq, List.head?_append_of_ne_nil _ ne_nil]
      rw [read?_of_head?_ne hbracket]
      exact readPlain?_eq_some_iff.mpr ⟨ne_nil, colon.1, .inr ⟨numeral, text_eq, denotes⟩⟩
    | bracketed text_eq ne_nil closing =>
      rw [text_eq]
      exact readBracketed?_eq_some_iff.mpr ⟨ne_nil, closing, .inl ⟨rfl, rfl⟩⟩
    | @bracketedPort numeral _ text_eq ne_nil closing denotes =>
      rw [text_eq]
      exact readBracketed?_eq_some_iff.mpr ⟨ne_nil, closing, .inr ⟨numeral, rfl, denotes⟩⟩

/-- The form of a text in which a host is known to stand. -/
def Form.ofText (s host : List Char) : Form :=
  if s.head? = some '[' then
    if s = '[' :: host ++ [']'] then .bracketed else .bracketedPort
  else if s = host then .host else .hostPort

theorem Names.form_eq (h : Names d s host form port) : form = .ofText s host := by
  cases h with
  | host text_eq ne_nil colon bracket =>
    rw [Form.ofText, if_neg (text_eq ▸ bracket), if_pos text_eq]
  | hostPort text_eq ne_nil colon bracket denotes =>
    have hbracket : s.head? ≠ some '[' := by
      rwa [text_eq, List.head?_append_of_ne_nil _ ne_nil]
    rw [Form.ofText, if_neg hbracket, if_neg (by simp [text_eq])]
  | bracketed text_eq ne_nil closing =>
    rw [Form.ofText, if_pos (by simp [text_eq]), if_pos text_eq]
  | bracketedPort text_eq ne_nil closing denotes =>
    rw [Form.ofText, if_pos (by simp [text_eq]), if_neg (by simp [text_eq])]

/-- **A text has one form and names one address.** -/
theorem Names.unique (h : Names d s host form port) (h' : Names d s host' form' port') :
    form = form' ∧ host = host' ∧ port = port' := by
  have hread : some (host, port) = some (host', port') := by
    rw [← read?_eq_some_iff.mpr ⟨form, h⟩, ← read?_eq_some_iff.mpr ⟨form', h'⟩]
  cases hread
  exact ⟨h.form_eq.trans h'.form_eq.symm, rfl, rfl⟩

/-! ## Whole texts -/

/-- A text is parsed as the address that it names once blanks around it are trimmed. -/
theorem parse_eq_ok_iff {s : String} {a : HostAddr} :
    parse s d = .ok a ↔ ∃ form, Names d (trim s.toList) a.host.toList form a.port := by
  rw [← read?_eq_some_iff, parse]
  split
  · rename_i host port hread
    obtain ⟨h, p⟩ := a
    rw [hread]
    simp only [Except.ok.injEq, mk.injEq, Option.some.injEq, Prod.mk.injEq]
    rw [← String.toList_inj, String.toList_ofList]
  · rename_i hread
    simp [hread]

theorem parse_eq_error_of_not_names {s : String}
    (h : ∀ form host port, ¬ Names d (trim s.toList) host form port) :
    parse s d = .error (.configuration (.hostAddress (String.ofList (trim s.toList)))) := by
  rw [parse]
  split
  · rename_i host port hread
    obtain ⟨form, hnames⟩ := read?_eq_some_iff.mp hread
    exact absurd hnames (h form host port)
  · rfl

/-- **A text is parsed exactly if it has one of the four forms**, and then it has that form only
and names one address. Every other text is refused, and the error quotes it without the blanks
around it. -/
theorem parse_forms (s : String) (d : UInt16) :
    (∀ a, parse s d = .ok a ↔ ∃ form, Names d (trim s.toList) a.host.toList form a.port) ∧
    (∀ form form' host host' port port', Names d (trim s.toList) host form port →
      Names d (trim s.toList) host' form' port' →
      form = form' ∧ host = host' ∧ port = port') ∧
    ((∀ form host port, ¬ Names d (trim s.toList) host form port) →
      parse s d = .error (.configuration (.hostAddress (String.ofList (trim s.toList))))) :=
  ⟨fun _ => parse_eq_ok_iff, fun _ _ _ _ _ _ => Names.unique, parse_eq_error_of_not_names⟩

/-- A host of colons in brackets, a port with a sign and a leading zero, and blanks around both. -/
theorem parse_forms_bracketedPort :
    parse " [::1]:+06000\u3000" 5433 = .ok ⟨"::1", 6000⟩ ∧
      ∀ form host port, Names 5433 (trim " [::1]:+06000\u3000".toList) host form port →
        form = .bracketedPort ∧ host = "::1".toList ∧ port = 6000 := by
  obtain ⟨hparse, hunique, -⟩ := parse_forms " [::1]:+06000\u3000" 5433
  have hnumeral : NatNumeral "+06000".toList (6000 : UInt16).toNat :=
    readNat?_eq_some_iff.mp (by decide +kernel)
  have hnames : Names 5433 (trim " [::1]:+06000\u3000".toList) "::1".toList .bracketedPort 6000 :=
    .bracketedPort (by decide +kernel) (by decide +kernel) (by decide +kernel) hnumeral
  exact ⟨(hparse _).mpr ⟨_, hnames⟩, fun form host port h => hunique _ _ _ _ _ _ h hnames⟩

end HostAddr

end ConnectionRouter
