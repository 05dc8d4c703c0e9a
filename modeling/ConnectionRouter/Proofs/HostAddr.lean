import ConnectionRouter.Proofs.AddressForms

/-!
# Written addresses

What the written form of an address tells. Ports are printed in digits, so the last colon of a
written address stands before its port, and no two addresses are written alike
(`HostAddr.text_injective`), whatever colons and brackets their hosts hold. A member's key leaves
the port out if it is the default one; so two keys agree only if one member has another's written
form for its host.

* `HostAddr.keys_identify`: which members share a key.
* `HostAddr.reading_of_parse`: what an accepted text looks like, and the host it names.
* `HostAddr.Legible`: the addresses that are read back from their written form.
* `HostAddr.parse_text_iff`: they are exactly those, under every default port.
* `HostAddr.reads_back_iff`: the same said of the characters of the host.
-/

namespace ConnectionRouter

open Text

namespace HostAddr

/-! ## The written form -/

/-- The host of an address as it is written: in brackets if it holds a colon. -/
def writtenHost (a : HostAddr) : List Char :=
  if ':' ∈ a.host.toList then '[' :: a.host.toList ++ [']'] else a.host.toList

/-- The digits of an address's port. -/
def writtenPort (a : HostAddr) : List Char := (toString a.port.toNat).toList

theorem toList_text (a : HostAddr) : a.text.toList = a.writtenHost ++ ':' :: a.writtenPort := by
  unfold text writtenHost writtenPort
  split <;> simp

theorem isDigit_of_mem_writtenPort {a : HostAddr} {c : Char} (h : c ∈ a.writtenPort) :
    c.isDigit = true :=
  isDigit_of_mem_toString h

theorem colon_not_mem_writtenPort (a : HostAddr) : ':' ∉ a.writtenPort := fun h =>
  absurd (isDigit_of_mem_writtenPort h) (by decide)

/-- The port of a written address stands behind its last colon. -/
theorem cutLast_text (a : HostAddr) :
    cutLast ':' a.text.toList = some (a.writtenHost, a.writtenPort) :=
  cutLast_eq_some_iff.2 ⟨a.toList_text, a.colon_not_mem_writtenPort⟩

/-- Only a host in brackets is written with a colon, so the brackets give themselves away. -/
theorem colon_mem_writtenHost (a : HostAddr) : ':' ∈ a.writtenHost ↔ ':' ∈ a.host.toList := by
  unfold writtenHost
  split
  · rename_i h
    simp [h]
  · exact Iff.rfl

theorem host_eq_of_writtenHost_eq {a b : HostAddr} (h : a.writtenHost = b.writtenHost) :
    a.host = b.host := by
  have hiff : ':' ∈ a.host.toList ↔ ':' ∈ b.host.toList := by
    rw [← colon_mem_writtenHost, ← colon_mem_writtenHost, h]
  rw [← String.toList_inj]
  unfold writtenHost at h
  by_cases ha : ':' ∈ a.host.toList
  · simpa [ha, hiff.1 ha] using h
  · rwa [if_neg ha, if_neg (mt hiff.2 ha)] at h

/-- **No two addresses are written alike.** -/
theorem text_injective : Function.Injective HostAddr.text := by
  intro a b h
  have hcut : some (a.writtenHost, a.writtenPort) = some (b.writtenHost, b.writtenPort) := by
    rw [← cutLast_text, ← cutLast_text, h]
  obtain ⟨hhost, hport⟩ := Prod.mk.inj (Option.some.inj hcut)
  have hp : some a.port = some b.port := by
    rw [← readPort?_toString, ← readPort?_toString]
    exact congrArg readPort? hport
  cases a
  cases b
  simp only [mk.injEq]
  exact ⟨host_eq_of_writtenHost_eq hhost, Option.some.inj hp⟩

/-! ## Keys -/

theorem key_of_port_eq {a : HostAddr} {d : UInt16} (h : a.port = d) : a.key d = a.host := if_pos h

theorem key_of_port_ne {a : HostAddr} {d : UInt16} (h : a.port ≠ d) : a.key d = a.text := if_neg h

theorem colon_mem_text (a : HostAddr) : ':' ∈ a.text.toList := by
  rw [toList_text]
  exact List.mem_append_right _ List.mem_cons_self

/-- The written form is longer than the host, by a colon at least. -/
theorem length_host_lt_length_text (a : HostAddr) :
    a.host.toList.length < a.text.toList.length := by
  have hhost : a.host.toList.length ≤ a.writtenHost.length := by
    unfold writtenHost
    split
    · simp only [List.cons_append, List.length_cons, List.length_append]
      omega
    · exact Nat.le_refl _
  rw [toList_text, List.length_append, List.length_cons]
  omega

/-- Keys are told apart by the ports first: two bare hosts, two written forms, or one of each. -/
theorem key_eq_key_iff {a b : HostAddr} {d : UInt16} : a.key d = b.key d ↔
    a = b ∨ (a.port = d ∧ b.port ≠ d ∧ a.host = b.text) ∨
      (a.port ≠ d ∧ b.port = d ∧ b.host = a.text) := by
  by_cases ha : a.port = d <;> by_cases hb : b.port = d
  · rw [key_of_port_eq ha, key_of_port_eq hb]
    have hab : a = b ↔ a.host = b.host := by
      cases a
      cases b
      simp_all
    simp [ha, hb, hab]
  · have hab : a ≠ b := by
      rintro rfl
      exact hb ha
    rw [key_of_port_eq ha, key_of_port_ne hb]
    simp [ha, hb, hab]
  · have hab : a ≠ b := by
      rintro rfl
      exact ha hb
    rw [key_of_port_ne ha, key_of_port_eq hb]
    simp [ha, hb, hab, eq_comm]
  · rw [key_of_port_ne ha, key_of_port_ne hb, text_injective.eq_iff]
    simp [ha, hb]

/-- **Keys identify members** but for one confusion: a member on the default port may have another
member's written form for its host. Members on different ports of one host are not confused, nor
are members whose hosts hold no colon. -/
theorem keys_identify :
    Function.Injective HostAddr.text ∧
    ∀ (d : UInt16) (a b : HostAddr),
      (a.key d = b.key d ↔ a = b ∨ (a.port = d ∧ b.port ≠ d ∧ a.host = b.text) ∨
        (a.port ≠ d ∧ b.port = d ∧ b.host = a.text)) ∧
      (a.host = b.host → a.port ≠ b.port → a.key d ≠ b.key d) ∧
      (':' ∉ a.host.toList → ':' ∉ b.host.toList → a.key d = b.key d → a = b) := by
  refine ⟨text_injective, fun d a b => ⟨key_eq_key_iff, fun hhost hport hkey => ?_,
    fun ha hb hkey => ?_⟩⟩
  · rcases key_eq_key_iff.mp hkey with rfl | ⟨-, -, htext⟩ | ⟨-, -, htext⟩
    · exact hport rfl
    · have hlt := b.length_host_lt_length_text
      rw [← htext, hhost] at hlt
      exact Nat.lt_irrefl _ hlt
    · have hlt := a.length_host_lt_length_text
      rw [← htext, hhost] at hlt
      exact Nat.lt_irrefl _ hlt
  · rcases key_eq_key_iff.mp hkey with hab | ⟨-, -, htext⟩ | ⟨-, -, htext⟩
    · exact hab
    · exact absurd (htext ▸ b.colon_mem_text) ha
    · exact absurd (htext ▸ a.colon_mem_text) hb

/-- Two members of one key, the first with a host in which the second is written. -/
example : key ⟨"h1:5434", 5433⟩ 5433 = key ⟨"h1", 5434⟩ 5433 := by decide +kernel

/-! ## Reading -/

/-- The host that a text names and how it stands there: in brackets, or plainly at the start of
the trimmed text. -/
inductive Reading (s : List Char) (host : List Char) : Prop
  /-- Between the first brackets. -/
  | bracketed (rest : List Char) (text_eq : s = '[' :: host ++ ']' :: rest) (closes : ']' ∉ host)
  /-- Before the first colon, or the whole text. -/
  | plain (rest : List Char) (text_eq : s = host ++ rest) (colon : ':' ∉ host)
    (bracket : s.head? ≠ some '[')

/-- Where the host of an accepted text stands. -/
theorem reading_of_parse {s : String} {d : UInt16} {a : HostAddr} (h : parse s d = .ok a) :
    a.host.toList ≠ [] ∧ Reading (trim s.toList) a.host.toList := by
  obtain ⟨form, hnames⟩ := parse_eq_ok_iff.mp h
  cases hnames with
  | host text_eq ne_nil colon bracket =>
    exact ⟨ne_nil, .plain [] (by simp [text_eq]) colon (text_eq ▸ bracket)⟩
  | hostPort text_eq ne_nil colon bracket denotes =>
    refine ⟨ne_nil, .plain _ text_eq colon.1 ?_⟩
    rwa [text_eq, List.head?_append_of_ne_nil _ ne_nil]
  | bracketed text_eq ne_nil closing => exact ⟨ne_nil, .bracketed [] text_eq closing⟩
  | bracketedPort text_eq ne_nil closing denotes =>
    exact ⟨ne_nil, .bracketed _ text_eq closing⟩

/-! ## Addresses that are read back -/

/-- The host can be told from its written form: a host in brackets ends at the first closing
bracket, and a plain one must not look like a bracketed one or lose blanks to trimming. -/
def Legible (a : HostAddr) : Prop :=
  if ':' ∈ a.host.toList then ']' ∉ a.host.toList
  else ∃ c ∈ a.host.toList.head?, c ≠ '[' ∧ isBlank c = false

instance (a : HostAddr) : Decidable a.Legible :=
  inferInstanceAs (Decidable (if ':' ∈ a.host.toList then ']' ∉ a.host.toList
    else ∃ c ∈ a.host.toList.head?, c ≠ '[' ∧ isBlank c = false))

theorem legible_of_colon {a : HostAddr} (h : ':' ∈ a.host.toList) :
    a.Legible ↔ ']' ∉ a.host.toList := by
  rw [Legible, if_pos h]

theorem legible_of_no_colon {a : HostAddr} (h : ':' ∉ a.host.toList) :
    a.Legible ↔ ∃ c ∈ a.host.toList.head?, c ≠ '[' ∧ isBlank c = false := by
  rw [Legible, if_neg h]

/-- A written address ends in a digit, so only blanks at its start can be trimmed. -/
theorem trim_text {a : HostAddr} (h : ∀ c, a.text.toList.head? = some c → isBlank c = false) :
    trim a.text.toList = a.text.toList := by
  refine trim_eq_self _ h fun c hc => ?_
  have hne : a.writtenPort ≠ [] := toList_toString_ne_nil _
  rw [toList_text, List.getLast?_append_of_ne_nil _ (List.cons_ne_nil _ _),
    List.getLast?_cons_of_ne_nil hne] at hc
  exact isBlank_of_isDigit (isDigit_of_mem_writtenPort (List.mem_of_getLast? hc))

/-- A legible address is read back from its written form, the port from the digits and not from
the default. -/
theorem parse_text {a : HostAddr} (h : a.Legible) (d : UInt16) : parse a.text d = .ok a := by
  have hport : NatNumeral a.writtenPort a.port.toNat := .digits (digits_toString _)
  by_cases hcolon : ':' ∈ a.host.toList
  · have htext : a.text.toList = '[' :: a.host.toList ++ ']' :: ':' :: a.writtenPort := by
      simp [toList_text, writtenHost, hcolon]
    have htrim : trim a.text.toList = a.text.toList := trim_text (by simp [htext]; decide)
    exact parse_eq_ok_iff.mpr ⟨_, .bracketedPort (htrim.trans htext) (List.ne_nil_of_mem hcolon)
      ((legible_of_colon hcolon).1 h) hport⟩
  · obtain ⟨c, hc, hbracket, hblank⟩ := (legible_of_no_colon hcolon).1 h
    obtain ⟨s, hs⟩ := List.head?_eq_some_iff.1 hc
    have htext : a.text.toList = a.host.toList ++ ':' :: a.writtenPort := by
      simp [toList_text, writtenHost, hcolon]
    have htrim : trim a.text.toList = a.text.toList := trim_text (by simp [htext, hs, hblank])
    exact parse_eq_ok_iff.mpr ⟨_, .hostPort (htrim.trans htext) (by simp [hs])
      ⟨hcolon, a.colon_not_mem_writtenPort⟩ (by simpa [hs] using hbracket) hport⟩

/-- Between brackets stands no closing one, and only there a colon. -/
theorem Reading.closes {s host : List Char} (h : Reading s host) (hcolon : ':' ∈ host) :
    ']' ∉ host := by
  cases h with
  | bracketed _ _ hclose => exact hclose
  | plain _ _ hno _ => exact absurd hcolon hno

/-- A host that stands at the start of a trimmed text, and not behind a bracket, is legible. -/
theorem legible_of_plain {a : HostAddr} {s rest : List Char} (hne : a.host.toList ≠ [])
    (htrim : trim s = a.host.toList ++ rest) (hcolon : ':' ∉ a.host.toList)
    (hbracket : (trim s).head? ≠ some '[') : a.Legible := by
  obtain ⟨c, t, hs⟩ := List.exists_cons_of_ne_nil hne
  have hhead : (trim s).head? = some c := by simp [htrim, hs]
  refine (legible_of_no_colon hcolon).2 ⟨c, by simp [hs], ?_, head?_trim _ hhead⟩
  rintro rfl
  exact hbracket hhead

/-- **An address is read back from its written form exactly if it is legible**, whatever the
default port. -/
theorem parse_text_iff (a : HostAddr) (d : UInt16) : parse a.text d = .ok a ↔ a.Legible := by
  refine ⟨fun h => ?_, fun h => parse_text h d⟩
  obtain ⟨hne, hread⟩ := reading_of_parse h
  by_cases hcolon : ':' ∈ a.host.toList
  · exact (legible_of_colon hcolon).2 (hread.closes hcolon)
  · cases hread with
    | bracketed rest htrim _ =>
      -- The trimmed text would close one bracket more than the host does, and the text does not.
      have hle := (trim_sublist a.text.toList).count_le ']'
      have hport : a.writtenPort.count ']' = 0 := List.count_eq_zero.2 fun hm =>
        absurd (isDigit_of_mem_writtenPort hm) (by decide)
      rw [htrim, toList_text] at hle
      simp only [writtenHost, if_neg hcolon, List.cons_append, List.count_append, hport,
        List.count_cons_self, List.count_cons_of_ne, ne_eq, Char.reduceEq,
        not_false_eq_true] at hle
      omega
    | plain rest htrim _ hbracket => exact legible_of_plain hne htrim hcolon hbracket

/-- **An address is read back from its written form exactly if its host holds a colon and no closing
bracket, or if it is not empty, holds no colon and starts neither with a bracket nor with a
blank.** -/
theorem reads_back_iff (a : HostAddr) (d : UInt16) : parse a.text d = .ok a ↔
    (':' ∈ a.host.toList ∧ ']' ∉ a.host.toList) ∨
    (a.host ≠ "" ∧ ':' ∉ a.host.toList ∧ a.host.toList.head? ≠ some '[' ∧
      ∀ c, a.host.toList.head? = some c → isBlank c = false) := by
  rw [parse_text_iff]
  by_cases hcolon : ':' ∈ a.host.toList
  · rw [legible_of_colon hcolon]
    simp [hcolon]
  · rw [legible_of_no_colon hcolon, ne_eq, ← String.toList_eq_nil_iff]
    generalize a.host.toList = host at hcolon
    cases host with
    | nil => simp
    | cons c s => simp_all

/-- An address that was read is legible if a colon stands in its host, or no bracket before it. -/
theorem legible_of_parse {s : String} {d : UInt16} {a : HostAddr} (h : parse s d = .ok a)
    (hs : ':' ∈ a.host.toList ∨ (trim s.toList).head? ≠ some '[') : a.Legible := by
  obtain ⟨hne, hread⟩ := reading_of_parse h
  by_cases hcolon : ':' ∈ a.host.toList
  · exact (legible_of_colon hcolon).2 (hread.closes hcolon)
  · cases hread with
    | bracketed rest htrim _ => exact absurd (by simp [htrim]) (hs.resolve_left hcolon)
    | plain rest htrim _ hbracket => exact legible_of_plain hne htrim hcolon hbracket

end HostAddr

end ConnectionRouter
