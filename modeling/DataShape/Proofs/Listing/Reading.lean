import DataShape.Proofs.Listing.Inspection

/-!
# Code can be read off its text

The text of a listing can be read in one way. A line is the text of one instruction alone
(`Instruction.text_inj`), since its condition and what it pushes are those of one text alone
(`Condition.text_inj`, `Pushed.text_inj`), and the lines are parted by the line ends, of which there
are no others (`CodeLine.linesText_inj`).

What a line begins with tells most of the forms apart. Two forms that begin with an expression part
behind it, where no index follows.
-/

namespace DataShape

/-! ## Ranges -/

namespace NumberStyle

/-- The letters have at most one point among them, and something behind it. -/
def OnePoint (cs : List Char) : Prop :=
  ∃ whole fraction, cs = whole ++ fraction ∧ '.' ∉ whole ∧
    (fraction = [] ∨ ∃ c rest, fraction = '.' :: c :: rest ∧ '.' ∉ c :: rest)

/-- Letters without a point. -/
theorem OnePoint.whole (cs : List Char) (h : '.' ∉ cs) : OnePoint cs :=
  ⟨cs, [], (List.append_nil cs).symm, h, .inl rfl⟩

/-- Letters with a point. -/
theorem OnePoint.point (whole fraction : List Char) (hwhole : '.' ∉ whole) (hne : fraction ≠ [])
    (hfraction : '.' ∉ fraction) : OnePoint (whole ++ '.' :: fraction) := by
  obtain ⟨c, rest, rfl⟩ := List.exists_cons_of_ne_nil hne
  exact ⟨whole, _, rfl, hwhole, .inr ⟨c, rest, rfl, hfraction⟩⟩

/-- Digits in positions have at most one point among them, also behind a sign. -/
theorem onePoint_layoutPositions (sign : List Char) (d : Decimal) (hsign : '.' ∉ sign)
    (hdigits : ∀ c ∈ d.digits, c.isDigit = true) (hne : d.digits ≠ []) :
    OnePoint (sign ++ plain.layoutPositions d) := by
  have hpoint : '.' ∉ d.digits := fun hmem => absurd (hdigits _ hmem) (by decide)
  have hzeros (n : Nat) : '.' ∉ List.replicate n '0' := fun hmem =>
    absurd (List.eq_of_mem_replicate hmem) (by decide)
  unfold layoutPositions
  dsimp only
  split_ifs with hsmall hlarge hkeeps
  · rw [← List.singleton_append, ← List.append_assoc]
    refine .point _ _ ?_ (List.append_ne_nil_of_right_ne_nil _ hne) ?_
    · rw [List.mem_append, not_or]
      exact ⟨hsign, by decide⟩
    · rw [List.mem_append, not_or]
      exact ⟨hzeros _, hpoint⟩
  · cases hkeeps
  · refine .whole _ ?_
    rw [List.append_nil, List.mem_append, List.mem_append, not_or, not_or]
    exact ⟨hsign, hpoint, hzeros _⟩
  · rw [← List.append_assoc]
    refine .point _ _ ?_ ?_ fun hmem => hpoint (List.mem_of_mem_drop hmem)
    · rw [List.mem_append, not_or]
      exact ⟨hsign, fun hmem => hpoint (List.mem_of_mem_take hmem)⟩
    · rw [List.ne_nil_iff_length_pos, List.length_drop]
      omega

/-- A number in a message has at most one point. -/
theorem onePoint_text (x : Binary64) : OnePoint (plain.text x).toList := by
  cases x with
  | nan => exact .whole _ (by decide)
  | infinity neg => cases neg <;> exact .whole _ (by decide)
  | finite x =>
    have hsign : '.' ∉ (if x.neg then ['-'] else []) := by cases x.neg <;> decide
    show OnePoint (String.ofList _).toList
    rw [String.toList_ofList]
    by_cases hzero : x.mant = 0
    · rw [if_pos hzero]
      refine .whole _ ?_
      rw [List.mem_append, not_or]
      exact ⟨hsign, by decide⟩
    · obtain ⟨hdigits, hne, -⟩ := x.shortest_spec hzero plain.tie
      rw [if_neg hzero]
      exact onePoint_layoutPositions _ _ hsign hdigits hne

/-- The lower end of a range can be read off, and what stands behind the two points. -/
theorem range_inj (x y : Binary64) (u v : List Char)
    (h : (plain.text x).toList ++ '.' :: '.' :: u = (plain.text y).toList ++ '.' :: '.' :: v) :
    x = y ∧ u = v := by
  obtain ⟨whole, fraction, htext, hwhole, hfraction⟩ := onePoint_text x
  obtain ⟨whole', fraction', htext', hwhole', hfraction'⟩ := onePoint_text y
  have heq : (plain.text x).toList = (plain.text y).toList → x = y := fun heq =>
    plain.text_inj x y (String.toList_inj.1 heq)
  rw [htext, htext', List.append_assoc, List.append_assoc] at h
  rw [htext, htext'] at heq
  -- Behind the point of a fraction there is no other one until the range.
  rcases hfraction with rfl | ⟨c, rest, rfl, hrest⟩ <;>
    rcases hfraction' with rfl | ⟨c', rest', rfl, hrest'⟩
  · obtain ⟨rfl, hback⟩ := cut_inj '.' _ _ _ _ hwhole hwhole' h
    exact ⟨heq rfl, (List.cons.inj hback).2⟩
  · obtain ⟨-, hback⟩ := cut_inj '.' _ _ _ _ hwhole hwhole' h
    exact absurd ((List.cons.inj hback).1 ▸ List.mem_cons_self) hrest'
  · obtain ⟨-, hback⟩ := cut_inj '.' _ _ _ _ hwhole hwhole' h
    exact absurd ((List.cons.inj hback).1 ▸ List.mem_cons_self) hrest
  · obtain ⟨rfl, hback⟩ := cut_inj '.' _ _ _ _ hwhole hwhole' h
    obtain ⟨hfraction, hback⟩ := cut_inj '.' (c :: rest) (c' :: rest') _ _ hrest hrest' hback
    rw [hfraction] at heq
    exact ⟨heq rfl, (List.cons.inj hback).2⟩

end NumberStyle

/-! ## Conditions -/

/-- The names of kinds tell them apart. -/
theorem NamedKind.name_inj (k k' : NamedKind) (h : k.name = k'.name) : k = k' := by
  cases k <;> cases k' <;> first | rfl | exact absurd h (by decide)

/-- The signs of comparisons tell them apart. -/
theorem Comparison.sign_inj (c c' : Comparison) (h : c.sign = c'.sign) : c = c' := by
  cases c <;> cases c' <;> first | rfl | exact absurd h (by decide)

namespace Question

/-- The letters of a question in front of the expression that it is about. -/
def front : Question → List Char
  | isNot _ => "!".toList
  | outside _ _ => "!(".toList
  | unmatched source =>
    "!Regex::new(".toList ++ ((Quoted.quote source).toList ++ ").is_match(".toList)
  | refused => "<validator>(".toList
  | _ => []

/-- The letters of a question behind the expression that it is about. -/
def behind (e : String) : Question → List Char
  | isNot kind => ".is_".toList ++ (kind.name.toList ++ "()".toList)
  | outside min stop =>
    ".is_integer() && (".toList ++ ((NumberStyle.plain.text min).toList ++ ("..".toList ++
      ((NumberStyle.plain.text stop).toList ++ (").contains(".toList ++
        (e.toList ++ "))".toList)))))
  | length order n => ".len() ".toList ++ (order.sign.toList ++ (" ".toList ++ n.repr.toList))
  | number order x =>
    " ".toList ++ (order.sign.toList ++ (" ".toList ++ (NumberStyle.plain.text x).toList))
  | unmatched _ => ")".toList
  | otherKey allowed =>
    ".keys().any(|key| ![".toList ++
      ((", ".intercalate (allowed.map Quoted.quote)).toList ++ "].contains(key))".toList)
  | containsKey name => ".contains_key(".toList ++ ((Quoted.quote name).toList ++ ")".toList)
  | refused => ", extras).is_err()".toList

/-- A question is written around the expression that it is about. -/
theorem toList_text (question : Question) (e : String) :
    (question.text e).toList = question.front ++ (e.toList ++ question.behind e) := by
  cases question <;> unfold text front behind <;>
    simp only [String.toList_append, List.append_assoc, List.nil_append]

/-- The first two letters of a question about an expression. -/
def opening : Question → List Char
  | isNot _ => ['!', 'i']
  | outside _ _ => ['!', '(']
  | unmatched _ => ['!', 'R']
  | refused => ['<', 'v']
  | _ => ['i', 'n']

/-- The first two letters behind the expression. -/
def mark : Question → List Char
  | isNot _ => ['.', 'i']
  | outside _ _ => ['.', 'i']
  | length _ _ => ['.', 'l']
  | number order _ => ' ' :: order.sign.toList
  | unmatched _ => [')']
  | otherKey _ => ['.', 'k']
  | containsKey _ => ['.', 'c']
  | refused => [',', ' ']

/-- A question begins with its opening. -/
theorem take_text (question : Question) (a : Access) :
    (question.text a.text).toList.take 2 = question.opening := by
  rw [toList_text, Access.toList_text]
  cases question <;> rfl

/-- Nothing stands in front of the expression that a question begins with. -/
theorem front_eq_nil (question : Question) (h : question.opening = ['i', 'n']) :
    question.front = [] := by
  cases question <;> first | rfl | simp [opening] at h

/-- Behind the expression a question goes on with its mark. -/
theorem take_behind (question : Question) (e : String) :
    (question.behind e).take 2 = question.mark := by
  cases question with
  | number order x => cases order <;> rfl
  | _ => rfl

/-- Behind the expression a question goes on with no index. -/
theorem head?_behind_ne (question : Question) (e : String) :
    (question.behind e).head? ≠ some '[' := by
  cases question <;> exact fun h => absurd (Option.some.inj h) (by decide)

/-- Questions with the same text are the same, about the same expression. -/
theorem text_inj (question question' : Question) (a b : Access)
    (h : question.text a.text = question'.text b.text) : question = question' ∧ a = b := by
  have hopening : question.opening = question'.opening := by
    rw [← question.take_text a, h, take_text]
  -- Where the same stands in front, the expressions are the same, and so is what stands behind.
  have hbehind (hfront : question.front = question'.front) :
      a = b ∧ question.behind a.text = question'.behind b.text := by
    have hletters := congrArg String.toList h
    rw [toList_text, toList_text, hfront] at hletters
    exact a.text_append_inj b _ _ (question.head?_behind_ne _) (question'.head?_behind_ne _)
      (List.append_cancel_left hletters)
  have hmark (hin : question.opening = ['i', 'n']) : question.mark = question'.mark := by
    have hfront : question.front = question'.front :=
      (question.front_eq_nil hin).trans (question'.front_eq_nil (hopening ▸ hin)).symm
    rw [← question.take_behind a.text, (hbehind hfront).2, take_behind]
  cases question with
  | isNot kind =>
    cases question' with
    | isNot kind' =>
      obtain ⟨hab, hrest⟩ := hbehind rfl
      unfold behind at hrest
      have hname := List.append_cancel_right (List.append_cancel_left hrest)
      exact ⟨congrArg isNot (kind.name_inj kind' (String.toList_inj.1 hname)), hab⟩
    | _ => simp [opening] at hopening
  | outside min stop =>
    cases question' with
    | outside min' stop' =>
      obtain ⟨hab, hrest⟩ := hbehind rfl
      unfold behind at hrest
      obtain ⟨rfl, hstop⟩ := NumberStyle.range_inj min min' _ _ (List.append_cancel_left hrest)
      obtain ⟨rfl, -⟩ := NumberStyle.plain.text_append_inj stop stop' ')' _ _ (by decide) hstop
      exact ⟨rfl, hab⟩
    | _ => simp [opening] at hopening
  | length order n =>
    cases question' with
    | length order' n' =>
      obtain ⟨hab, hrest⟩ := hbehind rfl
      unfold behind at hrest
      obtain rfl : order = order' := by
        cases order <;> cases order' <;> first | rfl | simp [Comparison.sign] at hrest
      have htext :=
        List.append_cancel_left (List.append_cancel_left (List.append_cancel_left hrest))
      rw [eq_of_repr_eq n n' (String.toList_inj.1 htext)]
      exact ⟨rfl, hab⟩
    | _ => simp [opening, mark] at hopening hmark
  | number order x =>
    cases question' with
    | number order' x' =>
      obtain ⟨hab, hrest⟩ := hbehind rfl
      unfold behind at hrest
      obtain rfl := order.sign_inj order' (String.toList_inj.1 (List.cons.inj (hmark rfl)).2)
      have htext :=
        List.append_cancel_left (List.append_cancel_left (List.append_cancel_left hrest))
      rw [NumberStyle.plain.text_inj x x' (String.toList_inj.1 htext)]
      exact ⟨rfl, hab⟩
    | _ => simp [opening, mark] at hopening hmark
  | unmatched source =>
    cases question' with
    | unmatched source' =>
      -- The source stands in front of the expression.
      have hletters := congrArg String.toList h
      rw [toList_text, toList_text] at hletters
      unfold front at hletters
      simp only [List.append_assoc] at hletters
      obtain ⟨rfl, -⟩ := Quoted.quote_inj source source' _ _ (List.append_cancel_left hletters)
      exact ⟨rfl, (hbehind rfl).1⟩
    | _ => simp [opening] at hopening
  | otherKey allowed =>
    cases question' with
    | otherKey allowed' =>
      obtain ⟨hab, hrest⟩ := hbehind rfl
      unfold behind at hrest
      obtain ⟨rfl, -⟩ := intercalate_inj Quoted.quote ']' allowed allowed' _ _
        (fun key _ => Quoted.quote_inj key) (by decide)
        (fun key u => by rw [Quoted.head?_quote]; decide) (List.append_cancel_left hrest)
      exact ⟨rfl, hab⟩
    | _ => simp [opening, mark] at hopening hmark
  | containsKey name =>
    cases question' with
    | containsKey name' =>
      obtain ⟨hab, hrest⟩ := hbehind rfl
      unfold behind at hrest
      obtain ⟨rfl, -⟩ := Quoted.quote_inj name name' _ _ (List.append_cancel_left hrest)
      exact ⟨rfl, hab⟩
    | _ => simp [opening, mark] at hopening hmark
  | refused =>
    cases question' with
    | refused => exact ⟨rfl, (hbehind rfl).1⟩
    | _ => simp [opening] at hopening

end Question

/-- Conditions with the same text are the same. -/
theorem Condition.text_inj (condition condition' : Condition)
    (h : condition.text = condition'.text) : condition = condition' := by
  have hgrown (question : Question) (a : Access) : question.text a.text ≠ grown.text := by
    intro h
    have hopening := question.take_text a
    rw [h] at hopening
    cases question <;> simp [Condition.text, Question.opening] at hopening
  cases condition with
  | asks of question =>
    cases condition' with
    | asks of' question' =>
      obtain ⟨rfl, rfl⟩ := Question.text_inj question question' of of' h
      rfl
    | grown => exact absurd h (hgrown question of)
  | grown =>
    cases condition' with
    | asks of' question' => exact absurd h.symm (hgrown question' of')
    | grown => rfl

/-! ## Pushes and lines -/

/-- Pushes with the same text are the same. -/
theorem Pushed.text_inj (pushed pushed' : Pushed) (h : pushed.text = pushed'.text) :
    pushed = pushed' := by
  have hmade (e : ValidationError) : e.inspect ≠ made.text := by
    intro h
    have hhead := e.head?_inspect
    rw [h] at hhead
    cases e <;> simp [Pushed.text, ValidationError.initial] at hhead
  cases pushed with
  | error e =>
    cases pushed' with
    | error e' => rw [e.inspect_inj e' h]
    | made => exact absurd h (hmade e)
  | made =>
    cases pushed' with
    | error e' => exact absurd h.symm (hmade e')
    | made => rfl

namespace Instruction

/-- What a line begins with: its first letter, or more of it if that is a closing brace. -/
def openingOf (letters : List Char) : List Char :=
  if letters.head? = some '\x7d' then letters.take 8 else letters.take 1

/-- What an instruction begins with. -/
def opening : Instruction → List Char
  | ifHolds _ => ['i']
  | elseIfHolds _ => ['\x7d', ' ', 'e', 'l', 's', 'e', ' ', 'i']
  | otherwise => ['\x7d', ' ', 'e', 'l', 's', 'e', ' ', '\x7b']
  | push _ => ['e']
  | remember => ['l']
  | countDown _ _ => ['f']
  | leave => ['b']
  | close => ['\x7d']

/-- The line of an instruction begins as the instruction does. -/
theorem openingOf_text (instruction : Instruction) :
    openingOf instruction.text.toList = instruction.opening := by
  cases instruction <;> unfold text <;>
    simp only [String.toList_append, List.append_assoc] <;> rfl

/-- A line of code begins with no space. -/
theorem head?_text_ne (instruction : Instruction) : instruction.text.toList.head? ≠ some ' ' := by
  cases instruction <;> unfold text <;>
    simp only [String.toList_append, List.append_assoc] <;> simp

/-- Instructions with the same text are the same. -/
theorem text_inj (instruction instruction' : Instruction)
    (h : instruction.text = instruction'.text) : instruction = instruction' := by
  have hopening : instruction.opening = instruction'.opening := by
    rw [← openingOf_text, ← openingOf_text, h]
  cases instruction with
  | ifHolds condition =>
    cases instruction' with
    | ifHolds condition' =>
      unfold text at h
      rw [String.append_left_inj, String.append_right_inj] at h
      rw [condition.text_inj condition' h]
    | _ => simp [opening] at hopening
  | elseIfHolds condition =>
    cases instruction' with
    | elseIfHolds condition' =>
      unfold text at h
      rw [String.append_left_inj, String.append_right_inj] at h
      rw [condition.text_inj condition' h]
    | _ => simp [opening] at hopening
  | push pushed =>
    cases instruction' with
    | push pushed' =>
      unfold text at h
      rw [String.append_left_inj, String.append_right_inj] at h
      rw [pushed.text_inj pushed' h]
    | _ => simp [opening] at hopening
  | countDown loop list =>
    cases instruction' with
    | countDown loop' list' =>
      have hspace (n : Nat) : ' ' ∉ (loopVariable n).toList := fun hmem =>
        absurd (mem_loopVariable n _ hmem) (by decide)
      have hin : " in (0..".toList = ' ' :: "in (0..".toList := by decide
      have hletters := congrArg String.toList h
      unfold text at hletters
      simp only [String.toList_append, List.append_assoc, hin, List.cons_append] at hletters
      obtain ⟨hvariable, hrest⟩ := cut_inj ' ' _ _ _ _ (hspace loop) (hspace loop')
        (List.append_cancel_left hletters)
      obtain ⟨rfl, -⟩ := list.text_append_inj list' _ _ (by simp) (by simp)
        (List.append_cancel_left hrest)
      rw [loopVariable_inj loop loop' (String.toList_inj.1 hvariable)]
    | _ => simp [opening] at hopening
  | _ =>
    cases instruction' <;> first | rfl | simp [opening] at hopening

end Instruction

/-! ## Texts of code -/

/-- Spaces in front of something else can be counted. -/
theorem spaces_inj (m n : Nat) (u v : List Char) (hu : u.head? ≠ some ' ') (hv : v.head? ≠ some ' ')
    (h : List.replicate m ' ' ++ u = List.replicate n ' ' ++ v) : m = n ∧ u = v := by
  induction m generalizing n with
  | zero =>
    cases n with
    | zero => exact ⟨rfl, h⟩
    | succ n => exact absurd (congrArg List.head? h) hu
  | succ m ih =>
    cases n with
    | zero => exact absurd (congrArg List.head? h).symm hv
    | succ n =>
      obtain ⟨rfl, huv⟩ := ih n (List.cons.inj h).2
      exact ⟨rfl, huv⟩

namespace CodeLine

/-- The letters of a line of code, with the line end. -/
def letters (l : CodeLine) : List Char :=
  List.replicate (4 * l.blocks) ' ' ++ (l.instruction.text.toList ++ ['\n'])

/-- A line of code can be read off from its beginning. -/
theorem letters_inj (l l' : CodeLine) (u v : List Char) (h : l.letters ++ u = l'.letters ++ v) :
    l = l' ∧ u = v := by
  have hend (l : CodeLine) :
      '\n' ∉ List.replicate (4 * l.blocks) ' ' ++ l.instruction.text.toList := by
    rw [List.mem_append, not_or]
    exact ⟨fun hmem => absurd (List.eq_of_mem_replicate hmem) (by decide),
      l.instruction.singleLine_text⟩
  unfold letters at h
  rw [← List.append_assoc, ← List.append_assoc, List.append_assoc, List.append_assoc _ _ v] at h
  obtain ⟨hline, huv⟩ := cut_inj '\n' _ _ u v (hend l) (hend l') h
  obtain ⟨hspaces, htext⟩ := spaces_inj _ _ _ _ l.instruction.head?_text_ne
    l'.instruction.head?_text_ne hline
  obtain ⟨blocks, instruction⟩ := l
  obtain ⟨blocks', instruction'⟩ := l'
  obtain rfl := instruction.text_inj instruction' (String.toList_inj.1 htext)
  obtain rfl : blocks = blocks' := Nat.eq_of_mul_eq_mul_left (by decide) hspaces
  exact ⟨rfl, huv⟩

/-- The text of code is made of its lines. -/
theorem toList_linesText (code : List CodeLine) :
    (linesText (code.map line)).toList = code.flatMap letters := by
  induction code with
  | nil => rfl
  | cons l rest ih =>
    have hline : (codeLine l.blocks l.instruction.text).toList = l.letters := by
      unfold codeLine indentation letters
      rw [String.toList_append, String.toList_append, String.toList_ofList, List.append_assoc]
      rfl
    rw [List.map_cons, linesText_cons, String.toList_append, ih, List.flatMap_cons]
    exact congrArg (· ++ rest.flatMap letters) hline

/-- Code with the same text is the same. -/
theorem linesText_inj (code code' : List CodeLine)
    (h : linesText (code.map line) = linesText (code'.map line)) : code = code' := by
  have hletters := congrArg String.toList h
  rw [toList_linesText, toList_linesText] at hletters
  have hline (l : CodeLine) (w : List Char) : [] ≠ l.letters ++ w := by
    unfold letters
    simp
  refine (flatMap_inj letters letters_inj [] [] hline hline code code' ?_).1
  rw [List.append_nil, List.append_nil, hletters]

end CodeLine

end DataShape
