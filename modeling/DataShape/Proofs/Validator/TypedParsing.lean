import DataShape.Proofs.Number.MachineWord
import DataShape.Proofs.Validator.Conformance
import DataShape.Proofs.Value.RoundTrip

/-!
# Sized kinds and typed readers draw the same line

A number that passes the kind check of a sized kind is handed on as JSON, and a typed reader takes it
from there. The check compares doubles, with one past the greatest integer as an end that is left
out. Writing chooses between integers and floating-point numbers by ranges of its own, and the reader
wants an integer document in the range of its type. All three draw the line at the range of the kind:
a double is accepted exactly when it is an integer of the range (`SizedKind.accepts_iff`), and exactly
then the reader gets that integer (`SizedKind.decode?_toJson_eq_some_iff`).

So a record whose fields are required numbers of sized kinds can be read from every valid input.
-/

namespace DataShape

/-! ## One number -/

namespace SizedKind

/-- A sized kind accepts the numbers that are integers of its range. -/
theorem accepts_iff (k : SizedKind) (x : Binary64) :
    k.kind.test.accepts (.number x) = true ↔
      ∃ n : Int, x.toRat? = some (n : ℚ) ∧ k.range.1 ≤ n ∧ n ≤ k.range.2 := by
  have hadmits : k.kind.admits x = x.toInt?.any fun n => k.range.1 ≤ n && n ≤ k.range.2 := by
    unfold NumberKind.admits
    rw [range?_kind]
  rw [NumberKind.accepts_test]
  show k.kind.admits x = true ↔ _
  rw [hadmits, Option.any_eq_true]
  simp only [Bool.and_eq_true, decide_eq_true_eq, Binary64.toInt?_eq_some_iff]

/-- A number is read as a machine integer when it is an integer of the range, and then as the machine
integer of that integer. -/
theorem decode?_toJson_eq_some_iff (k : SizedKind) (x : Binary64) (m : k.Word) :
    Decode.decode? (Value.number x).toJson = some m ↔
      ∃ n : Int, x.toRat? = some (n : ℚ) ∧ k.range.1 ≤ n ∧ n ≤ k.range.2 ∧ k.ofInt n = m := by
  obtain ⟨hlo64, hhi64⟩ := k.range_within_64
  have hwritten (n : Int) : (Value.number x).toJson = .int n ↔ _ :=
    Value.numberToJson_eq_int_iff x n
  rw [decode?_eq_some_iff]
  simp only [hwritten, Binary64.toInt?_eq_some_iff]
  -- 64 bits hold the range, so every integer of it is written as one.
  constructor
  · rintro ⟨n, ⟨hn, -, -⟩, hlo, hhi, hm⟩
    exact ⟨n, hn, hlo, hhi, hm⟩
  · rintro ⟨n, hn, hlo, hhi, hm⟩
    exact ⟨n, ⟨hn, hlo64.trans hlo, hhi.trans hhi64⟩, hlo, hhi, hm⟩

/-- The machine integer that a number is read as is that number. -/
theorem toRat?_of_decode?_toJson (k : SizedKind) (x : Binary64) (m : k.Word)
    (h : Decode.decode? (Value.number x).toJson = some m) :
    x.toRat? = some (k.toInt m : ℚ) := by
  obtain ⟨n, hn, hlo, hhi, rfl⟩ := (k.decode?_toJson_eq_some_iff x m).1 h
  rw [k.toInt_ofInt n hlo hhi, hn]

/-- The typed reader reads the numbers that the kind accepts. -/
theorem accepts_iff_exists_decode? (k : SizedKind) (x : Binary64) :
    k.kind.test.accepts (.number x) = true ↔
      ∃ m : k.Word, Decode.decode? (Value.number x).toJson = some m := by
  rw [accepts_iff]
  constructor
  · rintro ⟨n, hn, hlo, hhi⟩
    exact ⟨k.ofInt n, (k.decode?_toJson_eq_some_iff x _).2 ⟨n, hn, hlo, hhi, rfl⟩⟩
  · rintro ⟨m, hm⟩
    obtain ⟨n, hn, hlo, hhi, -⟩ := (k.decode?_toJson_eq_some_iff x m).1 hm
    exact ⟨n, hn, hlo, hhi⟩

end SizedKind

/-- The test of a kind passes for the values that the kind accepts. -/
theorem Test.outcome_kind_eq_pass_iff (test : KindTest) (extras : Extras) (v : Value) :
    (Test.kind test).outcome extras v = .pass ↔ test.accepts v = true := by
  cases haccepts : test.accepts v <;> simp [outcome, Outcome.failIf, haccepts]

/-- The first check of a compiled number node is the test of its kind. -/
theorem Node.checks_of_compile_number [PatternLanguage]
    (attrs : Attributes) (rules : NumberRules) (path : FieldPath)
    (plan : Plan) (h : (leaf attrs (.number rules)).compile path = .ok plan) :
    ∃ check rest, plan.own.checks = check :: rest ∧ check.test = .kind rules.kind.test := by
  unfold compile at h
  rw [cascade_eq, unlessDefect_map, unlessDefect_eq_ok_iff] at h
  obtain ⟨-, rfl⟩ := h
  exact ⟨_, _, rfl, rfl⟩

/-! ## Records -/

/-- What stands under a key of a map is written under the same key. -/
theorem Value.find?_entriesToJson (entries : List (String × Value)) (key : String) :
    Entries.find? (entriesToJson entries) key = (Entries.find? entries key).map toJson := by
  unfold Entries.find?
  induction entries with
  | nil => rfl
  | cons e rest ih =>
    unfold entriesToJson
    rw [List.lookup_cons, List.lookup_cons, ih]
    cases key == e.1 <;> rfl

/-- The document that stands under names, one below the other. -/
def Json.under? : Json → List String → Option Json
  | j, [] => some j
  | j, name :: rest => (j.entries?.bind (Entries.find? · name)).bind (·.under? rest)

/-- A field is what stands under its name. -/
theorem Json.field?_eq_under? (α : Type) [Decode α] (j : Json) (name : String) :
    j.field? α name = (j.under? [name]).bind Decode.decode? := by
  simp only [under?, Option.bind_assoc, Option.bind_some]
  rfl

/-- Under names, one below the other, each of which has to be there, a node asks for a number of a
sized kind, whatever else it asks of the number. -/
inductive Node.Requires : Node → List String → SizedKind → Prop
  | here (attrs : Attributes) (rules : NumberRules) (k : SizedKind) (kind : rules.kind = k.kind) :
      Requires (.leaf attrs (.number rules)) [] k
  | property (attrs : Attributes) (allowExtra : Bool) (properties : List (String × Node))
      (name : String) (child : Node) (rest : List String) (k : SizedKind)
      (declared : (name, child) ∈ properties) (required : child.attrs.optional = false)
      (deeper : Requires child rest k) :
      Requires (.object attrs allowExtra properties) (name :: rest) k

/-- A required number of a sized kind can be read from every value that conforms. -/
theorem Node.Requires.exists_decode? [PatternLanguage]
    (node : Node) (names : List String) (k : SizedKind)
    (h : node.Requires names k) (extras : Extras) (v : Value) (hv : node.Conforms extras v) :
    ∃ m : k.Word, (v.toJson.under? names).bind Decode.decode? = some m := by
  induction h generalizing v with
  | here attrs rules k hkind =>
    -- The number is one that the kind accepts, so the reader takes it.
    cases hv with
    | leaf _ _ _ holds =>
      obtain ⟨⟨x, rfl, hadmits, -, -⟩, -⟩ := holds
      rw [hkind] at hadmits
      have haccepts : k.kind.test.accepts (.number x) = true := by
        rw [NumberKind.accepts_test]
        exact (k.kind.admits_iff x).2 hadmits
      exact (k.accepts_iff_exists_decode? x).1 haccepts
  | property attrs allowExtra properties name child rest k hdeclared hrequired _ ih =>
    cases hv with
    | object _ _ _ entries _ each =>
      have hfits := each name child hdeclared
      cases hfind : Entries.find? entries name with
      | none =>
        rw [hfind] at hfits
        cases hfits with
        | absent _ hoptional => cases hrequired.symm.trans hoptional
      | some x =>
        rw [hfind] at hfits
        cases hfits with
        | present _ _ hx =>
          obtain ⟨m, hm⟩ := ih x hx
          refine ⟨m, ?_⟩
          unfold Value.toJson Json.under?
          show ((Entries.find? (Value.entriesToJson entries) name).bind _).bind _ = _
          rw [Value.find?_entriesToJson, hfind]
          exact hm

/-- A sized kind and the typed reader of its machine integers agree on every double. The first check
of a compiled number node of the kind passes exactly for the integers of the range, and exactly for
the numbers that the reader takes once they are written as JSON; what it reads is that integer.

So a record is never undecodable for the sake of its fields, nested or not, that are required numbers
of sized kinds: if it can be read from all documents in which these fields can be and in which
`others` holds, which stands for its other fields, then a parse fails only where `others` does. -/
theorem SizedKind.parsing_agrees [PatternLanguage] :
    (∀ (k : SizedKind) (attrs : Attributes) (rules : NumberRules) (path : FieldPath) (plan : Plan),
      rules.kind = k.kind → (Node.leaf attrs (.number rules)).compile path = .ok plan →
        ∃ check rest, plan.own.checks = check :: rest ∧ ∀ (extras : Extras) (x : Binary64),
          (check.test.outcome extras (.number x) = .pass ↔
            ∃ n : Int, x.toRat? = some (n : ℚ) ∧ k.range.1 ≤ n ∧ n ≤ k.range.2) ∧
          (check.test.outcome extras (.number x) = .pass ↔
            ∃ m : k.Word, Decode.decode? (Value.number x).toJson = some m) ∧
          ∀ m : k.Word, Decode.decode? (Value.number x).toJson = some m →
            x.toRat? = some (k.toInt m : ℚ)) ∧
    ∀ (s : Schema) (extraParams : List String) (v : Validator),
      s.compile extraParams = .ok v →
        ∀ (fields : List (List String × SizedKind)) (others : Json → Prop) (α : Type) [Decode α],
          (∀ field ∈ fields, s.node.Requires field.1 field.2) →
          (∀ j : Json,
            (∀ field ∈ fields,
              ∃ m : field.2.Word, (j.under? field.1).bind Decode.decode? = some m) →
            others j → ∃ a : α, Decode.decode? j = some a) →
          ∀ (value : Value) (args : List Value), others value.toJson →
            v.parse α value args ≠ .error .undecodable := by
  constructor
  · intro k attrs rules path plan hkind hplan
    obtain ⟨check, rest, hchecks, htest⟩ := Node.checks_of_compile_number attrs rules path plan hplan
    refine ⟨check, rest, hchecks, fun extras x => ?_⟩
    rw [htest, hkind, Test.outcome_kind_eq_pass_iff]
    exact ⟨k.accepts_iff x, k.accepts_iff_exists_decode? x, k.toRat?_of_decode?_toJson x⟩
  · intro s extraParams v hv fields others α _ hfields hreads value args hothers
    unfold Validator.parse
    cases hvalid : v.validate value args with
    | cons e es => simp
    | nil =>
      -- Without errors the input conforms, so each of the fields can be read.
      have hconforms := (s.validate_eq_nil_iff extraParams v hv value args).1 hvalid
      obtain ⟨a, ha⟩ := hreads value.toJson
        (fun field hfield => (hfields field hfield).exists_decode? _ _ _ _ _ hconforms) hothers
      simp [ha]

namespace Demo

/-- A ticket with a small and a large number. -/
structure Ticket where
  seat : UInt8
  serial : UInt64

/-- A ticket is read field by field. -/
instance : Decode Ticket :=
  ⟨fun j => do return { seat := ← j.field? UInt8 "seat", serial := ← j.field? UInt64 "serial" }⟩

/-- The schema of tickets. -/
def tickets : Schema :=
  .ofSettings [.property "seat" (.ofNumber (.unsigned .w8) []),
    .property "serial" (.ofNumber (.unsigned .w64) [])]

/-- The schema of tickets compiles. -/
theorem compile_tickets :
    tickets.compile [] = .ok { plan := tickets.node.plan .root, extraParams := [] } :=
  (tickets.compile_eq_ok_iff _ _).2 ⟨by decide +kernel, rfl⟩

/-- A ticket can be read when both of its numbers can. -/
theorem decode?_ticket (j : Json)
    (h : ∀ field ∈ [(["seat"], SizedKind.unsigned .w8), (["serial"], SizedKind.unsigned .w64)],
      ∃ m : field.2.Word, (j.under? field.1).bind Decode.decode? = some m) :
    ∃ t : Ticket, Decode.decode? j = some t := by
  obtain ⟨seat, hseat⟩ := h (["seat"], .unsigned .w8) (by simp)
  obtain ⟨serial, hserial⟩ := h (["serial"], .unsigned .w64) (by simp)
  have hseat' : j.field? UInt8 "seat" = some seat := (j.field?_eq_under? UInt8 _).trans hseat
  have hserial' : j.field? UInt64 "serial" = some serial :=
    (j.field?_eq_under? UInt64 _).trans hserial
  refine ⟨Ticket.mk seat serial, ?_⟩
  show ((j.field? UInt8 "seat").bind fun seat =>
    (j.field? UInt64 "serial").bind fun serial => some (Ticket.mk seat serial)) = _
  rw [hseat', hserial']
  rfl

/-- The largest double below the end of 64 bits is accepted, and a ticket with it is decodable. -/
theorem parsing_agrees_tickets :
    (∃ check rest, ((Node.ofNumber (.unsigned .w64) []).plan .root).own.checks = check :: rest ∧
      check.test.outcome .none (.number (.ofInt (2 ^ 64 - 2048))) = .pass) ∧
    tickets.compile [] = .ok { plan := tickets.node.plan .root, extraParams := [] } ∧
    tickets.node.Requires ["seat"] (.unsigned .w8) ∧
    tickets.node.Requires ["serial"] (.unsigned .w64) ∧
    Validator.parse Ticket { plan := tickets.node.plan .root, extraParams := [] }
      (.map [("seat", toValue 12), ("serial", .number (.ofInt (2 ^ 64 - 2048)))]) [] ≠
        .error .undecodable := by
  have hseat : tickets.node.Requires ["seat"] (.unsigned .w8) :=
    .property _ _ _ _ _ _ _ List.mem_cons_self rfl (.here {} { kind := .unsigned .w8 } _ rfl)
  have hserial : tickets.node.Requires ["serial"] (.unsigned .w64) :=
    .property _ _ _ _ _ _ _ (List.mem_cons_of_mem _ List.mem_cons_self) rfl
      (.here {} { kind := .unsigned .w64 } _ rfl)
  refine ⟨?_, compile_tickets, hseat, hserial, ?_⟩
  · obtain ⟨check, rest, hchecks, hall⟩ := SizedKind.parsing_agrees.1 (.unsigned .w64) {}
      { kind := .unsigned .w64 } .root _ rfl rfl
    exact ⟨check, rest, hchecks, (hall .none _).1.2 ⟨2 ^ 64 - 2048,
      (Binary64.toInt?_eq_some_iff _ _).1 (by decide +kernel), by decide, by decide⟩⟩
  · exact SizedKind.parsing_agrees.2 tickets [] _ compile_tickets
      [(["seat"], .unsigned .w8), (["serial"], .unsigned .w64)] (fun _ => True) Ticket
      (List.forall_mem_cons.2 ⟨hseat, List.forall_mem_singleton.2 hserial⟩)
      (fun j h _ => decode?_ticket j h) _ _ trivial

end Demo

end DataShape
