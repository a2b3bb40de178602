import DataShape.Closure.Inline
import DataShape.Proofs.Closure.Lexing
import Mathlib.Data.List.DropRight
import Mathlib.Data.List.OfFn

/-!
# Inlining fills a template

Whether a closure text is inlined or called is up to the text alone, and so is what it is inlined to
but for the replacements. A `Template` for `m` replacements is a text with numbered holes in it.
`ClosureText.inlining_is_template` gives a closure that is inlined one template for each number of
replacements: filled with any replacements, it is the text that comes out. So a replacement is never
looked into.

The holes of the template stand where the parameters stood. Filled with the parameters themselves, it
is the body again: no character of the body is lost, and none is moved or doubled.
-/

namespace DataShape

/-- A text with holes for `m` replacements: a piece of text, and then holes with a piece of text
behind each. -/
structure Template (m : Nat) where
  first : List Char
  rest : List (Fin m × List Char)

/-- The text of a template with the replacements put into its holes. -/
def Template.fill {m : Nat} (t : Template m) (replacement : Fin m → List Char) : List Char :=
  t.first ++ t.rest.flatMap fun part => replacement part.1 ++ part.2

namespace Template

/-- A template with text in front. -/
def push {m : Nat} (cs : List Char) (t : Template m) : Template m :=
  { t with first := cs ++ t.first }

/-- A template with a hole in front. -/
def pushHole {m : Nat} (k : Fin m) (t : Template m) : Template m :=
  { first := [], rest := (k, t.first) :: t.rest }

/-- Text in front stays in front. -/
theorem fill_push {m : Nat} (cs : List Char) (t : Template m) (replacement : Fin m → List Char) :
    (push cs t).fill replacement = cs ++ t.fill replacement :=
  List.append_assoc _ _ _

/-- A hole in front is filled with its replacement. -/
theorem fill_pushHole {m : Nat} (k : Fin m) (t : Template m) (replacement : Fin m → List Char) :
    (pushHole k t).fill replacement = replacement k ++ t.fill replacement :=
  List.append_assoc _ _ _

/-- Pieces with slots for `m` replacements are a template. -/
theorem exists_fill_eq (m : Nat) (pieces : List Piece)
    (h : ∀ i, Piece.slot i ∈ pieces → i < m) :
    ∃ t : Template m, ∀ replacements : List (List Char), (hm : replacements.length = m) →
      pieces.flatMap (Piece.fill replacements) = t.fill fun k => replacements[k] := by
  induction pieces with
  | nil => exact ⟨⟨[], []⟩, fun _ _ => rfl⟩
  | cons piece pieces ih =>
    obtain ⟨t, ht⟩ := ih fun i hi => h i (List.mem_cons_of_mem piece hi)
    cases piece with
    | text cs =>
      refine ⟨push cs t, fun replacements hm => ?_⟩
      rw [List.flatMap_cons, ht replacements hm, fill_push]
      rfl
    | slot i =>
      have hi : i < m := h i List.mem_cons_self
      refine ⟨pushHole ⟨i, hi⟩ t, fun replacements hm => ?_⟩
      have hfill : (Piece.slot i).fill replacements = replacements[i] := by
        show replacements[i]?.getD [] = _
        rw [List.getElem?_eq_getElem (hm ▸ hi), Option.getD_some]
      rw [List.flatMap_cons, ht replacements hm, hfill, fill_pushHole]
      rfl

end Template

namespace ClosureText

/-! ## The pieces of a body -/

/-- A word is a slot only for a replacement that there is. -/
theorem lt_of_wordPiece_eq_slot (params : List (List Char)) (count : Nat) (before word : List Char)
    (i : Nat) (h : wordPiece params count before word = .slot i) : i < count := by
  unfold wordPiece at h
  split at h
  · rename_i j _
    split at h
    · rename_i hj
      obtain rfl := Piece.slot.inj h
      exact of_decide_eq_true (Bool.and_eq_true _ _ ▸ hj).1
    · cases h
  · cases h

/-- With the parameters for replacements a word stays. -/
theorem fill_wordPiece (params : List (List Char)) (count : Nat) (before word : List Char) :
    (wordPiece params count before word).fill params = word := by
  unfold wordPiece
  split
  · rename_i i hi
    split
    · show params[i]?.getD [] = word
      obtain ⟨hlt, hword, -⟩ := List.idxOf?_eq_some_iff.1 hi
      rw [List.getElem?_eq_getElem hlt, Option.getD_some, hword]
    · rfl
  · rfl

section

variable (params : List (List Char)) (count : Nat)

/-- The first piece of tokens is made of the first token, and the others of the rest. -/
theorem pieces?_cons_eq_some (before : List Char) (token : Token) (tokens : List Token)
    (pieces : List Piece) (h : pieces? params count before (token :: tokens) = some pieces) :
    ∃ piece more, pieces = piece :: more ∧
      pieces? params count (token.text.reverse ++ before) tokens = some more ∧
      (piece = .text token.text ∨ piece = wordPiece params count before token.text) := by
  have hmore : ∀ piece, (pieces? params count (token.text.reverse ++ before) tokens).map
      (piece :: ·) = some pieces → ∃ more, pieces = piece :: more ∧
        pieces? params count (token.text.reverse ++ before) tokens = some more := by
    intro piece hpiece
    obtain ⟨more, hmore, rfl⟩ := Option.map_eq_some_iff.1 hpiece
    exact ⟨more, rfl, hmore⟩
  cases token with
  | literal text =>
    obtain ⟨more, rfl, htokens⟩ := hmore (.text text) h
    exact ⟨_, more, rfl, htokens, .inl rfl⟩
  | word text =>
    obtain ⟨more, rfl, htokens⟩ := hmore (wordPiece params count before text) h
    exact ⟨_, more, rfl, htokens, .inr rfl⟩
  | mark c =>
    cases hopens : decide (c = '|') && opensClosure before with
    | true => simp [pieces?, hopens] at h
    | false =>
      obtain ⟨more, rfl, htokens⟩ := hmore (.text [c]) (by simpa [pieces?, hopens] using h)
      exact ⟨_, more, rfl, htokens, .inl rfl⟩

/-- The slots of a body are for replacements that there are. -/
theorem lt_of_slot_mem_pieces? (tokens : List Token) : ∀ (before : List Char) (pieces : List Piece),
    pieces? params count before tokens = some pieces → ∀ i, Piece.slot i ∈ pieces → i < count := by
  induction tokens with
  | nil =>
    rintro before pieces ⟨⟩ i hi
    cases hi
  | cons token tokens ih =>
    intro before pieces h i hi
    obtain ⟨piece, more, rfl, htokens, hpiece⟩ :=
      pieces?_cons_eq_some params count before token tokens pieces h
    rcases List.mem_cons.1 hi with heq | hi
    · rcases hpiece with rfl | rfl
      · cases heq
      · exact lt_of_wordPiece_eq_slot params count before _ i heq.symm
    · exact ih _ more htokens i hi

/-- With the parameters for replacements the pieces are the text of the tokens. -/
theorem flatMap_fill_pieces? (tokens : List Token) : ∀ (before : List Char) (pieces : List Piece),
    pieces? params count before tokens = some pieces →
      pieces.flatMap (Piece.fill params) = tokens.flatMap Token.text := by
  induction tokens with
  | nil =>
    rintro before pieces ⟨⟩
    rfl
  | cons token tokens ih =>
    intro before pieces h
    obtain ⟨piece, more, rfl, htokens, hpiece⟩ :=
      pieces?_cons_eq_some params count before token tokens pieces h
    have hfill : piece.fill params = token.text := by
      rcases hpiece with rfl | rfl
      · rfl
      · exact fill_wordPiece params count before token.text
    rw [List.flatMap_cons, List.flatMap_cons, ih _ more htokens, hfill]

/-- A closure opens among tokens with the first of them, if that is a bar, or among the rest. -/
theorem pieces?_cons_eq_none_iff (before : List Char) (token : Token) (tokens : List Token) :
    pieces? params count before (token :: tokens) = none ↔
      (token = .mark '|' ∧ opensClosure before = true) ∨
        pieces? params count (token.text.reverse ++ before) tokens = none := by
  cases token with
  | literal text => simp [pieces?]
  | word text => simp [pieces?]
  | mark c =>
    by_cases hbar : c = '|' ∧ opensClosure before = true
    · simp [pieces?, hbar]
    · have hplain : (decide (c = '|') && opensClosure before) = false := by simpa using hbar
      simp [pieces?, hplain, hbar]

/-- Whether a closure opens among tokens has nothing to do with parameters and replacements. -/
theorem pieces?_eq_none_iff (params' : List (List Char)) (count' : Nat) (tokens : List Token)
    (before : List Char) :
    pieces? params count before tokens = none ↔ pieces? params' count' before tokens = none := by
  induction tokens generalizing before with
  | nil => exact iff_of_false (fun h => nomatch h) (fun h => nomatch h)
  | cons token tokens ih => rw [pieces?_cons_eq_none_iff, pieces?_cons_eq_none_iff, ih]

end

/-! ## Templates of closures -/

/-- What stands behind the bar is an end of the text. -/
theorem suffix_of_cutAtBar? (depth : Nat) (cs : List Char) (cut : List Char × List Char)
    (h : cutAtBar? depth cs = some cut) : cut.2 <:+ cs := by
  induction cs generalizing depth cut with
  | nil => cases h
  | cons c cs ih =>
    unfold cutAtBar? at h
    split at h
    · obtain rfl := Option.some.inj h
      exact List.suffix_cons c cs
    · obtain ⟨below, hbelow, rfl⟩ := Option.map_eq_some_iff.1 h
      exact (ih _ below hbelow).trans (List.suffix_cons c cs)

/-- Without the word `move`, an end of the text is left. -/
theorem dropMove_suffix (cs : List Char) : dropMove cs <:+ cs := by
  unfold dropMove
  split
  · rename_i c rest
    split
    · exact (List.dropWhile_suffix isBlank).trans (List.suffix_append ['m', 'o', 'v', 'e'] _)
    · exact List.suffix_refl _
  · exact List.suffix_refl _

/-- The body is an end of the closure text, without the blanks at its beginning. -/
theorem exists_body_eq_trimLeft (cs : List Char) (closure : ClosureText)
    (h : ofText? cs = some closure) : ∃ rest, rest <:+ cs ∧ closure.body = trimLeft rest := by
  have hmove := dropMove_suffix cs
  unfold ofText? at h
  split at h
  · rename_i body heq
    obtain rfl := Option.some.inj h
    rw [heq] at hmove
    exact ⟨body, (List.suffix_append ['|', '|'] body).trans hmove, rfl⟩
  · rename_i rest _ heq
    obtain ⟨cut, hcut, hclosure⟩ := Option.bind_eq_some_iff.1 h
    obtain rfl := Option.some.inj hclosure
    rw [heq] at hmove
    have hcs := (List.suffix_cons '|' rest).trans hmove
    exact ⟨cut.2, (suffix_of_cutAtBar? 0 rest cut hcut).trans hcs, rfl⟩
  · cases h

/-- The body of a closure text has no blanks at its beginning. -/
theorem trimLeft_body (cs : List Char) (closure : ClosureText) (h : ofText? cs = some closure) :
    trimLeft closure.body = closure.body := by
  obtain ⟨rest, -, hbody⟩ := exists_body_eq_trimLeft cs closure h
  rw [hbody]
  exact List.dropWhile_idempotent ..

/-- Without blanks at the beginning, a text is trimmed at its end. -/
theorem trim_eq_trimRight (cs : List Char) (h : trimLeft cs = cs) : trim cs = trimRight cs := by
  have hprefix : trimRight cs <+: cs := List.rdropWhile_prefix isBlank cs
  unfold trim
  cases hright : trimRight cs with
  | nil => rfl
  | cons c tail =>
    -- The first character is that of the text, so it is no blank.
    obtain ⟨back, hback⟩ := hright ▸ hprefix
    have hhead : isBlank c = false := by
      rw [← hback] at h
      refine Bool.eq_false_iff.2 fun hblank => ?_
      have hlength := congrArg List.length h
      have hdrop : trimLeft (c :: tail ++ back) = trimLeft (tail ++ back) :=
        List.dropWhile_cons_of_pos hblank
      have hle : (trimLeft (tail ++ back)).length ≤ (tail ++ back).length :=
        (List.dropWhile_suffix isBlank).length_le
      rw [hdrop] at hlength
      simp only [List.cons_append, List.length_cons] at hlength
      omega
    exact List.dropWhile_cons_of_neg (by rw [hhead]; decide)

/-- A closure that is called for one number of replacements is called for all. -/
theorem template?_eq_none_iff (closure : ClosureText) (m n : Nat) :
    closure.template? m = none ↔ closure.template? n = none := by
  unfold template?
  split
  · exact Iff.rfl
  · exact pieces?_eq_none_iff _ _ _ _ _ _

/-- The pieces of a template are those of the body. -/
theorem pieces?_of_template? (closure : ClosureText) (m : Nat) (pieces : List Piece)
    (h : closure.template? m = some pieces) :
    pieces? closure.params m [] (Token.ofText closure.body) = some pieces := by
  unfold template? at h
  split at h
  · cases h
  · exact h

section

variable (source : String) (closure : ClosureText)
  (hclosure : ofText? (trim source.toList) = some closure) (replacements : List String)

include hclosure

/-- A closure without a template is called. -/
theorem inlineText_of_template?_eq_none (h : closure.template? replacements.length = none) :
    inlineText source replacements = call source replacements := by
  unfold inlineText
  simp only [hclosure, h]

/-- A closure with a template is inlined to what fills it. -/
theorem inlineText_of_template?_eq_some (pieces : List Piece)
    (h : closure.template? replacements.length = some pieces) :
    inlineText source replacements =
      String.ofList (trimRight (pieces.flatMap (Piece.fill (replacements.map String.toList)))) := by
  unfold inlineText
  simp only [hclosure, h]

/-- Inlining a closure text is filling a template. Whether the closure is called instead is up to the
text alone. If it is not, then for each number of replacements there is one template that is filled
with the replacements, whatever they are, and filled with the names of the parameters it is the body.
So a closure with the names of its parameters for replacements is inlined to its body. -/
theorem inlining_is_template :
    ((∀ m, closure.template? m = none) ∧ ∀ r, inlineText source r = call source r) ∨
    ∃ t : ∀ m, Template m, (∀ m, closure.template? m ≠ none) ∧
      (∀ r : List String, inlineText source r =
        String.ofList (trimRight ((t r.length).fill fun k => r[k].toList))) ∧
      (t closure.params.length).fill (fun k => closure.params[k]) = closure.body ∧
      inlineText source (closure.params.map String.ofList) =
        String.ofList (trim closure.body) := by
  by_cases hcalled : closure.template? 0 = none
  · have hall : ∀ m, closure.template? m = none := fun m =>
      (closure.template?_eq_none_iff m 0).2 hcalled
    exact .inl ⟨hall, fun r => inlineText_of_template?_eq_none source closure hclosure r (hall _)⟩
  right
  have hinlined : ∀ m, closure.template? m ≠ none := fun m hm =>
    hcalled ((closure.template?_eq_none_iff m 0).1 hm)
  have hpieces : ∀ m, ∃ pieces, closure.template? m = some pieces := fun m =>
    Option.ne_none_iff_exists'.1 (hinlined m)
  choose pieces hpieces using hpieces
  have hbody : ∀ m, (pieces m).flatMap (Piece.fill closure.params) = closure.body := by
    intro m
    have hm := pieces?_of_template? closure m _ (hpieces m)
    rw [flatMap_fill_pieces? closure.params m _ [] _ hm, Token.flatMap_text_ofText]
  have htemplate : ∀ m, ∃ t : Template m, ∀ replacements : List (List Char),
      (hm : replacements.length = m) →
        (pieces m).flatMap (Piece.fill replacements) = t.fill fun k => replacements[k] := by
    intro m
    have hm := pieces?_of_template? closure m _ (hpieces m)
    exact Template.exists_fill_eq m _ (lt_of_slot_mem_pieces? closure.params m _ [] _ hm)
  choose t ht using htemplate
  refine ⟨t, hinlined, fun r => ?_, ?_, ?_⟩
  · rw [inlineText_of_template?_eq_some source closure hclosure r _ (hpieces _),
      ht _ _ (List.length_map _)]
    simp
  · rw [← ht _ closure.params rfl, hbody]
  · have hnames : (closure.params.map String.ofList).map String.toList = closure.params := by
      simp [Function.comp_def]
    rw [inlineText_of_template?_eq_some source closure hclosure _ _ (hpieces _), hnames, hbody,
      trim_eq_trimRight _ (trimLeft_body _ closure hclosure)]

end

end ClosureText

namespace Demo

/-- The closure `|v, n| v.n(n)`, taken apart. -/
def memberClosure : ClosureText where
  params := [['v'], ['n']]
  body := "v.n(n)".toList

/-- The tokens of the body of `memberClosure`. -/
theorem ofText_memberClosure : Token.ofText memberClosure.body =
    [.word ['v'], .mark '.', .word ['n'], .mark '(', .word ['n'], .mark ')'] := by
  refine (Token.ofText_cons 'v' _ (.word ['v']) _ rfl).trans (congrArg _ ?_)
  refine (Token.ofText_cons '.' _ (.mark '.') _ rfl).trans (congrArg _ ?_)
  refine (Token.ofText_cons 'n' _ (.word ['n']) _ rfl).trans (congrArg _ ?_)
  refine (Token.ofText_cons '(' _ (.mark '(') _ rfl).trans (congrArg _ ?_)
  refine (Token.ofText_cons 'n' _ (.word ['n']) _ rfl).trans (congrArg _ ?_)
  refine (Token.ofText_cons ')' _ (.mark ')') _ rfl).trans (congrArg _ ?_)
  exact Token.ofText_nil

/-- The closure `|v, n| v.n(n)` is inlined, and with its parameters for replacements it is its body.
-/
theorem inlining_memberClosure :
    ClosureText.ofText? (ClosureText.trim "|v, n| v.n(n)".toList) = some memberClosure ∧
      ∃ t : ∀ m, Template m,
        (∀ r : List String, ClosureText.inlineText "|v, n| v.n(n)" r =
          String.ofList (ClosureText.trimRight ((t r.length).fill fun k => r[k].toList))) ∧
        ClosureText.inlineText "|v, n| v.n(n)" ["v", "n"] = "v.n(n)" := by
  have hclosure : ClosureText.ofText? (ClosureText.trim "|v, n| v.n(n)".toList) =
      some memberClosure := rfl
  have htemplate : memberClosure.template? 0 = some
      [.text ['v'], .text ['.'], .text ['n'], .text ['('], .text ['n'], .text [')']] := by
    unfold ClosureText.template?
    rw [ofText_memberClosure]
    decide
  obtain ⟨hcalled, -⟩ | ⟨t, -, hfill, -, hself⟩ :=
    ClosureText.inlining_is_template "|v, n| v.n(n)" memberClosure hclosure
  · exact absurd (htemplate.symm.trans (hcalled 0)) (Option.some_ne_none _)
  · exact ⟨hclosure, t, hfill, hself⟩

end Demo

end DataShape
