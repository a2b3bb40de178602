import DataShape.Proofs.Closure.Lexing

/-!
# The lexemes of an expression

`Lexed` says, without a scanner, which lexemes an expression has. They are what the language makes of
a text, blanks included: a word may be raw, a label is a word behind a tick, two bars or two points in
a row are one operator. A comment is no lexeme, so an expression with a comment in it is not lexed.

A bar opens a closure where an operand is expected, and is an operator elsewhere. What decides is the
lexeme before it, blanks aside (`ExpectsOperand`). `NestsClosure` says that there is a bar of the
first kind.
-/

namespace DataShape

/-- A lexeme of an expression. -/
inductive Lexeme
  | blank (c : Char)
  /-- A keyword, a name or a number. A raw word is a name even if it is spelled as a keyword. -/
  | word (raw : Bool) (name : List Char)
  /-- A lifetime, or the name of a loop. -/
  | label (name : List Char)
  | literal (text : List Char)
  /-- A bar, or two of them. -/
  | bar (double : Bool)
  /-- Two points. -/
  | range
  | mark (c : Char)
deriving DecidableEq

/-- A word is made of letters, at least one. -/
def IsName (name : List Char) : Prop := name ≠ [] ∧ name.all isWordLetter = true

instance (name : List Char) : Decidable (IsName name) := inferInstanceAs (Decidable (_ ∧ _))

/-- A word ends where no letter follows. With a quote, a tick or a sign behind it, it would be the
prefix of a literal. -/
def EndsWord (rest : List Char) : Prop :=
  ∀ c ∈ rest.head?, isWordLetter c = false ∧ c ∉ ['"', '\'', '#']

instance : ∀ rest : List Char, Decidable (EndsWord rest)
  | [] => .isTrue fun _ h => nomatch h
  | c :: _ => decidable_of_iff (isWordLetter c = false ∧ c ∉ ['"', '\'', '#'])
    ⟨fun h _ hc => Option.some.inj hc ▸ h, fun h => h c rfl⟩

/-- The words after which an operand is expected. -/
def operandWords : List (List Char) := ["move".toList, "return".toList]

namespace Lexeme

/-- The text of a lexeme. -/
def text : Lexeme → List Char
  | blank c => [c]
  | word false name => name
  | word true name => 'r' :: '#' :: name
  | label name => '\'' :: name
  | literal text => text
  | bar false => ['|']
  | bar true => ['|', '|']
  | range => ['.', '.']
  | mark c => [c]

/-- A lexeme is spelled as one of its kind is, and is as long as can be with what follows it. A slash
that begins a comment is no mark. -/
def WellFormed (rest : List Char) : Lexeme → Prop
  | blank c => DataShape.isBlank c = true
  | word _ name => IsName name ∧ EndsWord rest
  | label name => IsName name ∧ EndsWord rest
  | literal text => IsLiteral text
  | bar double => double = false → rest.head? ≠ some '|'
  | range => True
  | mark c => (DataShape.isBlank c || isWordLetter c) = false ∧ c ∉ ['"', '\'', '|'] ∧
      (c = '.' → rest.head? ≠ some '.') ∧ (c = '/' → ∀ d ∈ rest.head?, d ≠ '/' ∧ d ≠ '*')

/-- The lexeme is a bar. -/
def isBar : Lexeme → Bool
  | bar _ => true
  | _ => false

/-- The last lexeme that is no blank, once another lexeme is read. -/
def after (previous? : Option Lexeme) : Lexeme → Option Lexeme
  | blank _ => previous?
  | lexeme => some lexeme

end Lexeme

/-- The lexemes of an expression. -/
inductive Lexed : List Char → List Lexeme → Prop
  | nil : Lexed [] []
  | cons (lexeme : Lexeme) (rest : List Char) (lexemes : List Lexeme)
      (h : lexeme.WellFormed rest) (below : Lexed rest lexemes) :
      Lexed (lexeme.text ++ rest) (lexeme :: lexemes)

/-- An operand is expected at the beginning, after an opening bracket, a separator or an operator, and
after the words `move` and `return`. -/
def ExpectsOperand : Option Lexeme → Prop
  | none => True
  | some (.mark c) => c ∈ "([\x7b,;:=!&+-*/%^<>".toList
  | some (.word raw name) => raw = false ∧ name ∈ operandWords
  | some (.bar _) => True
  | some .range => True
  | some _ => False

instance : ∀ previous? : Option Lexeme, Decidable (ExpectsOperand previous?)
  | none => .isTrue trivial
  | some (.mark c) => inferInstanceAs (Decidable (c ∈ _))
  | some (.word _ _) => inferInstanceAs (Decidable (_ ∧ _))
  | some (.bar _) => .isTrue trivial
  | some .range => .isTrue trivial
  | some (.blank _) => .isFalse id
  | some (.label _) => .isFalse id
  | some (.literal _) => .isFalse id

/-- A bar stands where an operand is expected, and so opens a closure. -/
def NestsClosure (previous? : Option Lexeme) : List Lexeme → Prop
  | [] => False
  | lexeme :: lexemes =>
    (lexeme.isBar = true ∧ ExpectsOperand previous?) ∨ NestsClosure (lexeme.after previous?) lexemes

instance instDecidableNestsClosure :
    ∀ (previous? : Option Lexeme) (lexemes : List Lexeme), Decidable (NestsClosure previous? lexemes)
  | _, [] => .isFalse id
  | previous?, lexeme :: lexemes =>
    have := instDecidableNestsClosure (lexeme.after previous?) lexemes
    inferInstanceAs (Decidable (_ ∨ _))

/-! ## The ends of lexemes -/

/-- A literal ends in a quote, a tick or a sign. -/
theorem IsLiteral.exists_last (text : List Char) (h : IsLiteral text) :
    ∃ front c, text = front ++ [c] ∧ c ∈ ['"', '\'', '#'] := by
  cases h with
  | string mark body hmark hbody => exact ⟨mark ++ '"' :: body, '"', by simp, by decide⟩
  | raw mark body n hmark hbody =>
    cases n with
    | zero => exact ⟨mark ++ '"' :: body, '"', by simp, by decide⟩
    | succ n =>
      refine ⟨mark ++ (List.replicate (n + 1) '#' ++ '"' :: (body ++ '"' :: List.replicate n '#')),
        '#', ?_, by decide⟩
      rw [List.replicate_succ' (n := n)]
      simp
  | char mark c hmark htick hbackslash => exact ⟨mark ++ ['\'', c], '\'', by simp, by decide⟩
  | escaped mark code hmark hcode => exact ⟨mark ++ '\'' :: '\\' :: code, '\'', by simp, by decide⟩

/-- A name ends in a letter. -/
theorem IsName.exists_last (name : List Char) (h : IsName name) :
    ∃ front c, name = front ++ [c] ∧ isWordLetter c = true :=
  ⟨name.dropLast, name.getLast h.1, (List.dropLast_concat_getLast h.1).symm,
    List.all_eq_true.1 h.2 _ (List.getLast_mem h.1)⟩

namespace Lexeme

/-- What the last character of a lexeme is like. -/
def EndsIn (c : Char) : Lexeme → Prop
  | blank d => c = d
  | word _ _ => isWordLetter c = true
  | label _ => isWordLetter c = true
  | _ => (DataShape.isBlank c || isWordLetter c) = false

/-- A lexeme has a last character of its kind. -/
theorem WellFormed.exists_last (rest : List Char) (lexeme : Lexeme) (h : lexeme.WellFormed rest) :
    ∃ front c, lexeme.text = front ++ [c] ∧ lexeme.EndsIn c := by
  cases lexeme with
  | blank c => exact ⟨[], c, rfl, rfl⟩
  | word raw name =>
    obtain ⟨front, c, rfl, hc⟩ := h.1.exists_last
    cases raw with
    | false => exact ⟨front, c, rfl, hc⟩
    | true => exact ⟨'r' :: '#' :: front, c, rfl, hc⟩
  | label name =>
    obtain ⟨front, c, rfl, hc⟩ := h.1.exists_last
    exact ⟨'\'' :: front, c, rfl, hc⟩
  | literal text =>
    obtain ⟨front, c, htext, hc⟩ := IsLiteral.exists_last text h
    exact ⟨front, c, htext, forall_of_all _
      (fun c => (DataShape.isBlank c || isWordLetter c) = false) (by decide +kernel) c hc⟩
  | bar double =>
    have hbar : (DataShape.isBlank '|' || isWordLetter '|') = false := by decide +kernel
    cases double with
    | false => exact ⟨[], '|', rfl, hbar⟩
    | true => exact ⟨['|'], '|', rfl, hbar⟩
  | range =>
    have hpoint : (DataShape.isBlank '.' || isWordLetter '.') = false := by decide +kernel
    exact ⟨['.'], '.', rfl, hpoint⟩
  | mark c => exact ⟨[], c, rfl, h.1⟩

/-- A lexeme that ends in a letter is a word, and so no letter follows it. -/
theorem WellFormed.endsWord (rest : List Char) (lexeme : Lexeme) (h : lexeme.WellFormed rest)
    (c : Char) (hlast : lexeme.EndsIn c) (hc : isWordLetter c = true) : EndsWord rest := by
  cases lexeme with
  | word raw name => exact h.2
  | label name => exact h.2
  | blank d =>
    obtain rfl : c = d := hlast
    rw [not_isWordLetter_of_isBlank c h] at hc
    cases hc
  | literal | bar | range | mark =>
    have hplain : (DataShape.isBlank c || isWordLetter c) = false := hlast
    rw [hc, Bool.or_true] at hplain
    cases hplain

end Lexeme

end DataShape
