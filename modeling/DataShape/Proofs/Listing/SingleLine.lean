import DataShape.Proofs.Listing.Code
import DataShape.Proofs.Number.DecimalText

/-!
# Texts without a line end

What stands in a line of a listing has no line end in it: a quoted text, because a line end is
escaped; a number, because it is made of digits and a few marks; and so the expressions, the
conditions and the errors that are put together from these, and the lines themselves
(`Instruction.singleLine_text`).
-/

namespace DataShape

/-- The text has no line end in it. -/
def SingleLine (s : String) : Prop := '\n' ∉ s.toList

instance (s : String) : Decidable (SingleLine s) := inferInstanceAs (Decidable ('\n' ∉ s.toList))

namespace SingleLine

/-- Texts without a line end can be put together. -/
@[simp] theorem append_iff (s t : String) :
    SingleLine (s ++ t) ↔ SingleLine s ∧ SingleLine t := by
  unfold SingleLine
  rw [String.toList_append, List.mem_append, not_or]

/-- A text has no line end if its characters do not. -/
@[simp] theorem ofList_iff (cs : List Char) : SingleLine (String.ofList cs) ↔ '\n' ∉ cs := by
  unfold SingleLine
  rw [String.toList_ofList]

/-- Texts without a line end make one together. -/
theorem append (s t : String) (hs : SingleLine s) (ht : SingleLine t) : SingleLine (s ++ t) :=
  (append_iff s t).2 ⟨hs, ht⟩

/-- A text without a line end can stand between two others. -/
theorem between (front text back : String) (hfront : SingleLine front) (htext : SingleLine text)
    (hback : SingleLine back) : SingleLine (front ++ text ++ back) :=
  append _ _ (append _ _ hfront htext) hback

/-- Texts without a line end can be listed. -/
theorem intercalate (separator : String) (texts : List String) (hseparator : SingleLine separator)
    (h : ∀ text ∈ texts, SingleLine text) : SingleLine (separator.intercalate texts) := by
  induction texts with
  | nil => exact List.not_mem_nil
  | cons text texts ih =>
    rw [List.forall_mem_cons] at h
    cases texts with
    | nil =>
      rw [String.intercalate_singleton]
      exact h.1
    | cons next rest =>
      rw [String.intercalate_cons_cons]
      exact append _ _ (append _ _ h.1 hseparator) (ih h.2)

end SingleLine

/-! ## Quoted texts and numbers -/

/-- The digits of a number are digit characters. -/
theorem exists_digitChar_of_mem_toDigits (b n : Nat) (c : Char) (hb : 1 < b)
    (h : c ∈ Nat.toDigits b n) : ∃ d < b, c = Nat.digitChar d := by
  induction n using Nat.strongRecOn with
  | ind n ih =>
    rw [Nat.toDigits_eq_if hb] at h
    split_ifs at h with hn
    · exact ⟨n, hn, List.mem_singleton.1 h⟩
    · rcases List.mem_append.1 h with h | h
      · exact ih (n / b) (Nat.div_lt_self (by omega) hb) h
      · exact ⟨n % b, Nat.mod_lt _ (by omega), List.mem_singleton.1 h⟩

/-- There is no line end among the digits of a number. -/
theorem newline_not_mem_toDigits (b n : Nat) (hb : 1 < b) (hb' : b ≤ 16) :
    '\n' ∉ Nat.toDigits b n := by
  intro h
  obtain ⟨d, hd, hc⟩ := exists_digitChar_of_mem_toDigits b n _ hb h
  have hnone : ∀ d < 16, '\n' ≠ Nat.digitChar d := by decide
  exact hnone d (Nat.lt_of_lt_of_le hd hb') hc

/-- There is no line end in the quoted form of a character. -/
theorem Quoted.newline_not_mem_escape (c : Char) : '\n' ∉ escape c := by
  have hhex := newline_not_mem_toDigits 16 c.toNat (by decide) (by decide)
  unfold escape
  split_ifs with h0 ht hr hn hmark hcode
  · decide
  · decide
  · decide
  · decide
  · simpa using Ne.symm hn
  · simpa using hhex
  · simpa using Ne.symm hn

/-- A quoted text has no line end in it. -/
theorem Quoted.singleLine_quote (s : String) : SingleLine (quote s) := by
  unfold quote
  rw [SingleLine.ofList_iff]
  simp [newline_not_mem_escape]

/-- A natural number has no line end in it. -/
theorem singleLine_repr (n : Nat) : SingleLine n.repr := by
  rw [Nat.repr_eq_ofList_toDigits, SingleLine.ofList_iff]
  exact newline_not_mem_toDigits 10 n (by decide) (by decide)

/-- An integer has no line end in it. -/
theorem singleLine_toString_int (n : Int) : SingleLine (toString n) := by
  cases n with
  | ofNat m => exact singleLine_repr m
  | negSucc m => exact (SingleLine.append_iff "-" _).2 ⟨by decide, singleLine_repr (m + 1)⟩

/-- A number has no line end in it. -/
theorem NumberStyle.singleLine_text (style : NumberStyle) (x : Binary64) :
    SingleLine (style.text x) := by
  intro h
  have hletter : ¬ IsLetter '\n' := by decide
  exact hletter (style.isLetter_of_mem_text x _ h)

/-! ## Values and errors -/

namespace Value

mutual

/-- A value in full detail has no line end in it. -/
theorem singleLine_inspect (v : Value) : SingleLine v.inspect := by
  cases v with
  | null => exact (by decide : SingleLine "Null")
  | bool b =>
    cases b with
    | true => exact (by decide : SingleLine "Bool(true)")
    | false => exact (by decide : SingleLine "Bool(false)")
  | number x =>
    unfold inspect
    exact .between _ _ _ (by decide) (NumberStyle.quoted.singleLine_text x) (by decide)
  | string s =>
    unfold inspect
    exact .between _ _ _ (by decide) (Quoted.singleLine_quote s) (by decide)
  | list items =>
    unfold inspect
    exact .between _ _ _ (by decide)
      (.intercalate ", " _ (by decide) (singleLine_inspectItems items)) (by decide)
  | map entries =>
    unfold inspect
    exact .between _ _ _ (by decide)
      (.intercalate ", " _ (by decide) (singleLine_inspectEntries entries)) (by decide)

/-- The items in full detail have no line end in them. -/
theorem singleLine_inspectItems (items : List Value) :
    ∀ text ∈ inspectItems items, SingleLine text := by
  cases items with
  | nil =>
    intro text h
    cases h
  | cons x xs =>
    unfold inspectItems
    rw [List.forall_mem_cons]
    exact ⟨singleLine_inspect x, singleLine_inspectItems xs⟩

/-- The entries in full detail have no line end in them. -/
theorem singleLine_inspectEntries (entries : List (String × Value)) :
    ∀ text ∈ inspectEntries entries, SingleLine text := by
  match entries with
  | [] =>
    intro text h
    cases h
  | (key, x) :: xs =>
    unfold inspectEntries
    rw [List.forall_mem_cons]
    exact ⟨.append _ _ (.append _ _ (Quoted.singleLine_quote key) (by decide))
      (singleLine_inspect x), singleLine_inspectEntries xs⟩

end

end Value

/-- An error in full detail has no line end in it. -/
theorem ValidationError.singleLine_inspect (e : ValidationError) : SingleLine e.inspect := by
  cases e with
  | code n => exact .between "Code(" _ ")" (by decide) (singleLine_toString_int _) (by decide)
  | message text =>
    exact .between "Message(" _ ")" (by decide) (Quoted.singleLine_quote text) (by decide)
  | structured n details =>
    exact .between _ _ "\x7d \x7d" (.between "Structured \x7b code: " _ ", details: \x7b" (by decide)
      (singleLine_toString_int _) (by decide))
      (.intercalate ", " _ (by decide) (Value.singleLine_inspectEntries details)) (by decide)

/-! ## Code -/

/-- The variable of a loop has no line end in it. -/
theorem singleLine_loopVariable (n : Nat) : SingleLine (loopVariable n) := by
  match n with
  | 0 => decide
  | 1 => decide
  | 2 => decide
  | k + 3 => exact .append "i" _ (by decide) (singleLine_repr (k + 3))

/-- An expression has no line end in it, whatever the names of properties are. -/
theorem Access.singleLine_text (a : Access) : SingleLine a.text := by
  induction a with
  | input => decide
  | key of name ih =>
    exact .between _ _ "]" (.append _ "[" ih (by decide)) (Quoted.singleLine_quote name) (by decide)
  | position of index ih =>
    exact .between _ _ "]" (.append _ "[" ih (by decide)) (singleLine_repr index) (by decide)
  | element of loop ih =>
    exact .between _ _ "]" (.append _ "[" ih (by decide)) (singleLine_loopVariable loop) (by decide)

/-- A question about an expression has no line end in it. -/
theorem Question.singleLine_text (question : Question) (e : String) (he : SingleLine e) :
    SingleLine (question.text e) := by
  cases question with
  | isNot kind =>
    have hkind : SingleLine kind.name := by cases kind <;> decide
    exact .append _ "()" (.append _ _ (.between "!" e ".is_" (by decide) he (by decide)) hkind)
      (by decide)
  | outside min stop =>
    have hmin := NumberStyle.plain.singleLine_text min
    have hstop := NumberStyle.plain.singleLine_text stop
    have hrange := SingleLine.between _ _ ".." (.between "!(" e ".is_integer() && (" (by decide) he
      (by decide)) hmin (by decide)
    exact .between _ e "))" (.append _ ").contains(" (.append _ _ hrange hstop) (by decide)) he
      (by decide)
  | length order n =>
    have horder : SingleLine order.sign := by cases order <;> decide
    exact .append _ _ (.between _ order.sign " " (.append e ".len() " he (by decide)) horder
      (by decide)) (singleLine_repr n)
  | number order x =>
    have horder : SingleLine order.sign := by cases order <;> decide
    exact .append _ _ (.between _ order.sign " " (.append e " " he (by decide)) horder (by decide))
      (NumberStyle.plain.singleLine_text x)
  | unmatched source =>
    exact .between _ e ")" (.between "!Regex::new(" _ ").is_match(" (by decide)
      (Quoted.singleLine_quote source) (by decide)) he (by decide)
  | otherKey allowed =>
    refine .between _ _ "].contains(key))" (.append e ".keys().any(|key| ![" he (by decide))
      (.intercalate ", " _ (by decide) ?_) (by decide)
    rw [List.forall_mem_map]
    exact fun key _ => Quoted.singleLine_quote key
  | containsKey name =>
    exact .between _ _ ")" (.append e ".contains_key(" he (by decide))
      (Quoted.singleLine_quote name)
      (by decide)
  | refused => exact .between "<validator>(" e ", extras).is_err()" (by decide) he (by decide)

/-- A condition has no line end in it. -/
theorem Condition.singleLine_text (condition : Condition) : SingleLine condition.text := by
  cases condition with
  | asks of question => exact question.singleLine_text _ of.singleLine_text
  | grown => decide

/-- What is pushed has no line end in it. -/
theorem Pushed.singleLine_text (pushed : Pushed) : SingleLine pushed.text := by
  cases pushed with
  | error e => exact e.singleLine_inspect
  | made => decide

/-- An instruction has no line end in it. -/
theorem Instruction.singleLine_text (instruction : Instruction) : SingleLine instruction.text := by
  cases instruction with
  | ifHolds condition =>
    exact .between "if " _ " \x7b" (by decide) condition.singleLine_text (by decide)
  | elseIfHolds condition =>
    exact .between "\x7d else if " _ " \x7b" (by decide) condition.singleLine_text (by decide)
  | push pushed =>
    exact .between "errors.push(" _ ");" (by decide) pushed.singleLine_text (by decide)
  | countDown loop list =>
    exact .between _ _ ".len()).rev() \x7b"
      (.between "for " _ " in (0.." (by decide) (singleLine_loopVariable loop) (by decide))
      list.singleLine_text (by decide)
  | otherwise => decide
  | remember => decide
  | leave => decide
  | close => decide

end DataShape
