/-
Data written in JSON, read back.  What is written says by its first character which data it is, and
where it ends.  A number alone ends only where something else than a digit follows, which is so
behind every part of a list or a record.  So two data have the same text only if they are the same.
-/
import GrammarText.Data
import Mathlib.Data.List.TakeWhile

namespace GrammarText
namespace Data
namespace Json

/-! Texts between double quotes. -/

/-- The value of four hexadecimal digits. -/
def hexValue (a b c d : Char) : Nat :=
  let digit (c : Char) : Nat := if c.isDigit then c.toNat - 48 else c.toNat - 87
  ((digit a * 16 + digit b) * 16 + digit c) * 16 + digit d

/-- The character that is written at the front of a list, and what is behind it.  At the quote that
ends the text there is none. -/
def unescape : List Char → Option (Char × List Char)
  | [] => none
  | '"' :: _ => none
  | '\\' :: 'n' :: rest => some ('\n', rest)
  | '\\' :: 'r' :: rest => some ('\r', rest)
  | '\\' :: 't' :: rest => some ('\t', rest)
  | '\\' :: 'b' :: rest => some ('\x08', rest)
  | '\\' :: 'f' :: rest => some ('\x0c', rest)
  | '\\' :: 'u' :: a :: b :: c :: d :: rest => some (Char.ofNat (hexValue a b c d), rest)
  | '\\' :: c :: rest => some (c, rest)
  | c :: rest => some (c, rest)

theorem hexPadded_of_lt {n : Nat} (h : n < 32) :
    ∃ a b c d, Text.hexPadded 4 n = [a, b, c, d] ∧ hexValue a b c d = n := by
  refine ⟨_, _, _, _, rfl, ?_⟩
  revert n
  decide

theorem unescape_escape (c : Char) (rest : List Char) :
    unescape (escape c ++ rest) = some (c, rest) := by
  unfold escape
  split_ifs with hquote hbackslash hfeed hreturn htab hback hform hcontrol
  · rw [eq_of_beq hquote]
    rfl
  · rw [eq_of_beq hbackslash]
    rfl
  · rw [eq_of_beq hfeed]
    rfl
  · rw [eq_of_beq hreturn]
    rfl
  · rw [eq_of_beq htab]
    rfl
  · rw [eq_of_beq hback]
    rfl
  · rw [eq_of_beq hform]
    rfl
  · obtain ⟨a, b, x, d, hdigits, hvalue⟩ := hexPadded_of_lt hcontrol
    rw [hdigits]
    show some (Char.ofNat (hexValue a b x d), rest) = _
    rw [hvalue, Char.ofNat_toNat]
  · rw [beq_iff_eq] at hquote hbackslash
    simp only [List.singleton_append]
    unfold unescape
    split <;> simp_all

/-- What is written of two texts, up to the quotes behind them, is the same for the same texts
only. -/
theorem flatMap_escape_inj {a b r s : List Char}
    (h : a.flatMap escape ++ '"' :: r = b.flatMap escape ++ '"' :: s) : a = b ∧ r = s := by
  have hread := congrArg unescape h
  induction a generalizing b with
  | nil =>
    cases b with
    | nil => exact ⟨rfl, List.tail_eq_of_cons_eq h⟩
    | cons d b =>
      rw [List.flatMap_cons, List.append_assoc, unescape_escape] at hread
      cases hread
  | cons c a ih =>
    rw [List.flatMap_cons, List.append_assoc, unescape_escape] at hread
    cases b with
    | nil => cases hread
    | cons d b =>
      rw [List.flatMap_cons, List.append_assoc, unescape_escape] at hread
      obtain ⟨rfl, hrest⟩ := Prod.mk.inj (Option.some.inj hread)
      obtain ⟨rfl, hrs⟩ := ih hrest (congrArg unescape hrest)
      exact ⟨rfl, hrs⟩

theorem toList_quote (text : String) (r : List Char) :
    (quote text).toList ++ r = '"' :: (text.toList.flatMap escape ++ '"' :: r) := by
  rw [quote, String.toList_ofList]
  simp only [List.cons_append, List.append_assoc, List.nil_append]

theorem quote_inj {a b : String} {r s : List Char}
    (h : (quote a).toList ++ r = (quote b).toList ++ s) : a = b ∧ r = s := by
  rw [toList_quote, toList_quote] at h
  obtain ⟨hab, hrs⟩ := flatMap_escape_inj (List.tail_eq_of_cons_eq h)
  exact ⟨String.toList_inj.mp hab, hrs⟩

/-! Numbers. -/

/-- No digit follows. -/
def EndsNumber (r : List Char) : Prop :=
  ∀ c ∈ r.head?, c.isDigit = false

theorem EndsNumber.nil : EndsNumber [] := by
  rintro _ ⟨⟩

theorem EndsNumber.cons {c : Char} {r : List Char} (h : c.isDigit = false) :
    EndsNumber (c :: r) := by
  rintro _ ⟨⟩
  exact h

theorem toList_number (n : Nat) : (toString n).toList = Nat.toDigits 10 n :=
  Nat.toList_repr

theorem takeWhile_digits {n : Nat} {r : List Char} (h : EndsNumber r) :
    (Nat.toDigits 10 n ++ r).takeWhile Char.isDigit = Nat.toDigits 10 n := by
  rw [List.takeWhile_append_of_pos fun d hd =>
    Nat.isDigit_of_mem_toDigits (by decide) (by decide) hd]
  cases r with
  | nil => rw [List.takeWhile_nil, List.append_nil]
  | cons c r =>
    rw [List.takeWhile_cons_of_neg (by rw [h c rfl]; exact Bool.false_ne_true), List.append_nil]

theorem number_inj {m n : Nat} {r s : List Char} (hr : EndsNumber r) (hs : EndsNumber s)
    (h : (toString m).toList ++ r = (toString n).toList ++ s) : m = n ∧ r = s := by
  rw [toList_number, toList_number] at h
  have hdigits := congrArg (List.takeWhile Char.isDigit) h
  rw [takeWhile_digits hr, takeWhile_digits hs] at hdigits
  rw [hdigits] at h
  have hvalue := congrArg (Nat.ofDigitChars 10 · 0) hdigits
  simp only [Nat.ofDigitChars_ten_toDigits] at hvalue
  exact ⟨hvalue, List.append_cancel_left h⟩

/-! Lists and records, of which the parts stand between marks. -/

variable {depth : Nat} {r s : List Char}

theorem toList_print_null : (print depth null).toList ++ r = 'n' :: 'u' :: 'l' :: 'l' :: r := by
  simp [print]

theorem toList_print_list_nil : (print depth (list [])).toList ++ r = '[' :: ']' :: r := by
  simp [print]

theorem toList_print_record_nil : (print depth (record [])).toList ++ r = '{' :: '}' :: r := by
  simp [print]

theorem toList_print_list (item : Data) (rest : List Data) :
    (print depth (list (item :: rest))).toList ++ r =
      '[' :: '\n' :: ((indent (depth + 1)).toList ++ ((print (depth + 1) item).toList ++
        ((printItems (depth + 1) rest).toList ++
          '\n' :: ((indent depth).toList ++ ']' :: r)))) := by
  simp [print]

theorem toList_print_record (name : String) (value : Data) (rest : List (String × Data)) :
    (print depth (record ((name, value) :: rest))).toList ++ r =
      '{' :: '\n' :: ((indent (depth + 1)).toList ++ ((quote name).toList ++
        ':' :: ' ' :: ((print (depth + 1) value).toList ++
          ((printFields (depth + 1) rest).toList ++
            '\n' :: ((indent depth).toList ++ '}' :: r))))) := by
  simp [print]

theorem toList_printItems_nil : (printItems depth []).toList ++ r = r := by
  simp [printItems]

theorem toList_printFields_nil : (printFields depth []).toList ++ r = r := by
  simp [printFields]

theorem toList_printItems_cons (item : Data) (rest : List Data) :
    (printItems depth (item :: rest)).toList ++ r =
      ',' :: '\n' :: ((indent depth).toList ++ ((print depth item).toList ++
        ((printItems depth rest).toList ++ r))) := by
  simp [printItems]

theorem toList_printFields_cons (name : String) (value : Data) (rest : List (String × Data)) :
    (printFields depth ((name, value) :: rest)).toList ++ r =
      ',' :: '\n' :: ((indent depth).toList ++ ((quote name).toList ++
        ':' :: ' ' :: ((print depth value).toList ++
          ((printFields depth rest).toList ++ r)))) := by
  simp [printFields]

theorem endsNumber_printItems (items : List Data) :
    EndsNumber ((printItems depth items).toList ++ '\n' :: r) := by
  cases items with
  | nil =>
    rw [toList_printItems_nil]
    exact .cons rfl
  | cons item rest =>
    rw [toList_printItems_cons]
    exact .cons rfl

theorem endsNumber_printFields (fields : List (String × Data)) :
    EndsNumber ((printFields depth fields).toList ++ '\n' :: r) := by
  cases fields with
  | nil =>
    rw [toList_printFields_nil]
    exact .cons rfl
  | cons field rest =>
    rw [toList_printFields_cons]
    exact .cons rfl

/-! The first character. -/

/-- What data are, apart from what they hold. -/
inductive Shape where
  | null
  | number
  | text
  | list
  | record
  deriving DecidableEq

def shape : Data → Shape
  | null => .null
  | number _ => .number
  | text _ => .text
  | list _ => .list
  | record _ => .record

/-- The shape of data whose text starts with a character. -/
def Shape.ofFirst (c : Char) : Shape :=
  if c = 'n' then .null
  else if c = '"' then .text
  else if c = '[' then .list
  else if c = '{' then .record
  else .number

theorem ofFirst_digit {c : Char} (h : c.isDigit = true) : Shape.ofFirst c = .number := by
  have hne : ∀ {d : Char}, d.isDigit = false → c ≠ d := by
    rintro d hd rfl
    rw [h] at hd
    cases hd
  unfold Shape.ofFirst
  rw [if_neg (hne rfl), if_neg (hne rfl), if_neg (hne rfl), if_neg (hne rfl)]

theorem shape_of_print (d : Data) :
    ((print depth d).toList ++ r).head?.map Shape.ofFirst = some (shape d) := by
  cases d with
  | null =>
    rw [toList_print_null]
    rfl
  | number n =>
    rw [print, toList_number]
    obtain ⟨c, digits, hdigits⟩ :=
      List.exists_cons_of_ne_nil (Nat.toDigits_ne_nil (n := n) (b := 10))
    have hc : c.isDigit = true :=
      Nat.isDigit_of_mem_toDigits (b := 10) (n := n) (by decide) (by decide)
        (hdigits ▸ List.mem_cons_self ..)
    rw [hdigits]
    exact congrArg some (ofFirst_digit hc)
  | text value =>
    rw [print, toList_quote]
    rfl
  | list items =>
    cases items with
    | nil =>
      rw [toList_print_list_nil]
      rfl
    | cons item rest =>
      rw [toList_print_list]
      rfl
  | record fields =>
    cases fields with
    | nil =>
      rw [toList_print_record_nil]
      rfl
    | cons field rest =>
      rw [toList_print_record]
      rfl

theorem shape_eq {a b : Data}
    (h : (print depth a).toList ++ r = (print depth b).toList ++ s) : shape a = shape b := by
  have hhead := congrArg (fun text => text.head?.map Shape.ofFirst) h
  simp only [shape_of_print] at hhead
  exact Option.some.inj hhead

/-! Whole data.  Each lemma below takes the parts of data for granted. -/

/-- Of all data in front of something that ends a number only these have this text, and what follows
is the same then. -/
def Told (depth : Nat) (a : Data) : Prop :=
  ∀ ⦃b r s⦄, EndsNumber r → EndsNumber s →
    (print depth a).toList ++ r = (print depth b).toList ++ s → a = b ∧ r = s

def ItemsTold (depth : Nat) (items : List Data) : Prop :=
  ∀ ⦃others r s⦄, (printItems depth items).toList ++ '\n' :: r =
    (printItems depth others).toList ++ '\n' :: s → items = others ∧ r = s

def FieldsTold (depth : Nat) (fields : List (String × Data)) : Prop :=
  ∀ ⦃others r s⦄, (printFields depth fields).toList ++ '\n' :: r =
    (printFields depth others).toList ++ '\n' :: s → fields = others ∧ r = s

theorem told_null (depth : Nat) : Told depth null := by
  intro b r s _ _ h
  cases b with
  | null => exact ⟨rfl, List.append_cancel_left h⟩
  | _ => cases shape_eq h

theorem told_number (depth value : Nat) : Told depth (number value) := by
  intro b r s hr hs h
  cases b with
  | number other =>
    obtain ⟨rfl, hrs⟩ := number_inj hr hs h
    exact ⟨rfl, hrs⟩
  | _ => cases shape_eq h

theorem told_text (depth : Nat) (value : String) : Told depth (text value) := by
  intro b r s _ _ h
  cases b with
  | text other =>
    obtain ⟨rfl, hrs⟩ := quote_inj h
    exact ⟨rfl, hrs⟩
  | _ => cases shape_eq h

theorem itemsTold_nil (depth : Nat) : ItemsTold depth [] := by
  intro others r s h
  rw [toList_printItems_nil] at h
  cases others with
  | nil =>
    rw [toList_printItems_nil] at h
    exact ⟨rfl, List.tail_eq_of_cons_eq h⟩
  | cons other more =>
    rw [toList_printItems_cons] at h
    simp at h

theorem itemsTold_cons (depth : Nat) (item : Data) (rest : List Data) (hitem : Told depth item)
    (hrest : ItemsTold depth rest) : ItemsTold depth (item :: rest) := by
  intro others r s h
  rw [toList_printItems_cons] at h
  cases others with
  | nil =>
    rw [toList_printItems_nil] at h
    simp at h
  | cons other more =>
    rw [toList_printItems_cons, List.cons.injEq, List.cons.injEq] at h
    obtain ⟨rfl, hitems⟩ := hitem (endsNumber_printItems rest) (endsNumber_printItems more)
      (List.append_cancel_left h.2.2)
    obtain ⟨rfl, hrs⟩ := hrest hitems
    exact ⟨rfl, hrs⟩

theorem fieldsTold_nil (depth : Nat) : FieldsTold depth [] := by
  intro others r s h
  rw [toList_printFields_nil] at h
  cases others with
  | nil =>
    rw [toList_printFields_nil] at h
    exact ⟨rfl, List.tail_eq_of_cons_eq h⟩
  | cons other more =>
    rw [toList_printFields_cons] at h
    simp at h

theorem fieldsTold_cons (depth : Nat) (name : String) (value : Data)
    (rest : List (String × Data)) (hvalue : Told depth value) (hrest : FieldsTold depth rest) :
    FieldsTold depth ((name, value) :: rest) := by
  intro others r s h
  rw [toList_printFields_cons] at h
  cases others with
  | nil =>
    rw [toList_printFields_nil] at h
    simp at h
  | cons other more =>
    rw [toList_printFields_cons, List.cons.injEq, List.cons.injEq] at h
    obtain ⟨rfl, hcolon⟩ := quote_inj (List.append_cancel_left h.2.2)
    rw [List.cons.injEq, List.cons.injEq] at hcolon
    obtain ⟨rfl, hfields⟩ := hvalue (endsNumber_printFields rest)
      (endsNumber_printFields more) hcolon.2.2
    obtain ⟨rfl, hrs⟩ := hrest hfields
    exact ⟨rfl, hrs⟩

theorem told_list_nil (depth : Nat) : Told depth (list []) := by
  intro b r s _ _ h
  cases b with
  | list others =>
    cases others with
    | nil => exact ⟨rfl, List.append_cancel_left h⟩
    | cons other more =>
      rw [toList_print_list_nil, toList_print_list] at h
      simp at h
  | _ => cases shape_eq h

/-- Up to the bracket in front and that behind them, the items are written as further items. -/
theorem told_list (depth : Nat) (item : Data) (rest : List Data) (hitem : Told (depth + 1) item)
    (hrest : ItemsTold (depth + 1) rest) : Told depth (list (item :: rest)) := by
  intro b r s _ _ h
  cases b with
  | list others =>
    cases others with
    | nil =>
      rw [toList_print_list_nil, toList_print_list] at h
      simp at h
    | cons other more =>
      rw [toList_print_list, toList_print_list] at h
      have hitems := congrArg (',' :: ·) (List.tail_eq_of_cons_eq h)
      simp only [← toList_printItems_cons] at hitems
      obtain ⟨heq, hclose⟩ := itemsTold_cons (depth + 1) item rest hitem hrest hitems
      rw [heq]
      exact ⟨rfl, List.tail_eq_of_cons_eq (List.append_cancel_left hclose)⟩
  | _ => cases shape_eq h

theorem told_record_nil (depth : Nat) : Told depth (record []) := by
  intro b r s _ _ h
  cases b with
  | record others =>
    cases others with
    | nil => exact ⟨rfl, List.append_cancel_left h⟩
    | cons other more =>
      rw [toList_print_record_nil, toList_print_record] at h
      simp at h
  | _ => cases shape_eq h

theorem told_record (depth : Nat) (name : String) (value : Data) (rest : List (String × Data))
    (hvalue : Told (depth + 1) value) (hrest : FieldsTold (depth + 1) rest) :
    Told depth (record ((name, value) :: rest)) := by
  intro b r s _ _ h
  cases b with
  | record others =>
    cases others with
    | nil =>
      rw [toList_print_record_nil, toList_print_record] at h
      simp at h
    | cons other more =>
      rw [toList_print_record, toList_print_record] at h
      have hfields := congrArg (',' :: ·) (List.tail_eq_of_cons_eq h)
      simp only [← toList_printFields_cons] at hfields
      obtain ⟨heq, hclose⟩ := fieldsTold_cons (depth + 1) name value rest hvalue hrest hfields
      rw [heq]
      exact ⟨rfl, List.tail_eq_of_cons_eq (List.append_cancel_left hclose)⟩
  | _ => cases shape_eq h

/-- The induction is that of the printer, which goes one level deeper for the parts of data. -/
theorem told (depth : Nat) (a : Data) : Told depth a :=
  print.induct Told FieldsTold ItemsTold told_null told_number told_text told_list_nil told_list
    told_record_nil told_record itemsTold_nil itemsTold_cons fieldsTold_nil fieldsTold_cons depth a

end Json

/-- Data of any depth and with any texts in them are the same if their texts in JSON are. -/
theorem toJson_inj {a b : Data} (h : a.toJson = b.toJson) : a = b := by
  have htext : (Json.print 0 a).toList ++ [] = (Json.print 0 b).toList ++ [] :=
    congrArg (String.toList · ++ []) h
  exact (Json.told 0 a Json.EndsNumber.nil Json.EndsNumber.nil htext).1

end Data
end GrammarText
