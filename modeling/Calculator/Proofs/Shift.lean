import Calculator.Proofs.Tree
import Calculator.Token

/-!
# Shifted places

What stands in a source stands further on when the source is put behind another text. `shift` moves
the places in a span, a token, a fault or a tree by a number of bytes, and changes nothing else: a
shifted tree has the shape of the tree (`Expr.matches_shift`), and its calls take the arguments that
they took (`Expr.callsAccepted_shift`).
-/

namespace Calculator

namespace Span

/-- The place `k` bytes further on. -/
def shift (k : Nat) (span : Span) : Span := ⟨span.start + k, span.stop + k⟩

theorem shift_zero (span : Span) : span.shift 0 = span := rfl

theorem shift_single (k position : Nat) : (single position).shift k = single (position + k) := by
  simp only [shift, single, Nat.add_right_comm]

/-- Two places that move together cover what they covered, further on. -/
theorem shift_cover (k : Nat) (a b : Span) :
    (a.cover b).shift k = (a.shift k).cover (b.shift k) := by
  simp only [shift, cover, Nat.add_min_add_right, Nat.add_max_add_right]

end Span

/-- A token further on in its source. -/
def Token.shift (k : Nat) (t : Token) : Token := { t with span := t.span.shift k }

theorem Token.shift_zero (t : Token) : t.shift 0 = t := rfl

def Fault.shift (k : Nat) (fault : Fault) : Fault := { fault with span := fault.span.shift k }

namespace Expr

/-! ## Trees -/

mutual

/-- The tree with all its places moved. -/
def shift (k : Nat) : Expr → Expr
  | .number value span => .number value (span.shift k)
  | .text value span => .text value (span.shift k)
  | .name id span => .name id (span.shift k)
  | .binary op left right span => .binary op (left.shift k) (right.shift k) (span.shift k)
  | .unary op operand span => .unary op (operand.shift k) (span.shift k)
  | .call function args span => .call function (shiftAll k args) (span.shift k)
  | .assign target value span => .assign target (value.shift k) (span.shift k)
  | .sequence statements span => .sequence (shiftAll k statements) (span.shift k)

/-- The same trees of a list. -/
def shiftAll (k : Nat) : List Expr → List Expr
  | [] => []
  | e :: es => e.shift k :: shiftAll k es

end

theorem shiftAll_eq_map (k : Nat) (es : List Expr) : shiftAll k es = es.map (shift k) := by
  induction es with
  | nil => rfl
  | cons e es ih => rw [shiftAll, ih, List.map_cons]

/-- The place of a tree is moved with it. -/
theorem span_shift (k : Nat) (e : Expr) : (e.shift k).span = e.span.shift k := by
  cases e <;> rfl

mutual

/-- Moving by nothing changes nothing. -/
theorem shift_zero (e : Expr) : e.shift 0 = e := by
  match e with
  | .number .. | .text .. | .name .. => rfl
  | .binary _ left right _ => rw [shift, shift_zero left, shift_zero right, Span.shift_zero]
  | .unary _ operand _ => rw [shift, shift_zero operand, Span.shift_zero]
  | .call _ args _ => rw [shift, shiftAll_zero args, Span.shift_zero]
  | .assign _ value _ => rw [shift, shift_zero value, Span.shift_zero]
  | .sequence statements _ => rw [shift, shiftAll_zero statements, Span.shift_zero]

theorem shiftAll_zero (es : List Expr) : shiftAll 0 es = es := by
  match es with
  | [] => rfl
  | e :: es => rw [shiftAll, shift_zero e, shiftAll_zero es]

end

mutual

/-- Shifting changes places only. -/
theorem matches_shift (k : Nat) (e : Expr) :
    e.Matches (fun a b => b = a.shift k) Eq (e.shift k) := by
  match e with
  | .number .. => exact .number rfl
  | .text .. => exact .text rfl
  | .name .. => exact .name rfl
  | .binary _ left right _ => exact .binary (matches_shift k left) (matches_shift k right) rfl
  | .unary _ operand _ => exact .unary (matches_shift k operand) rfl
  | .call _ args _ => exact .call rfl (allMatch_shift k args) rfl
  | .assign _ value _ => exact .assign (matches_shift k value) rfl
  | .sequence statements _ => exact .sequence (allMatch_shift k statements) rfl

theorem allMatch_shift (k : Nat) (es : List Expr) :
    AllMatch (fun a b => b = a.shift k) Eq es (shiftAll k es) := by
  match es with
  | [] => exact .nil
  | e :: es => exact .cons (matches_shift k e) (allMatch_shift k es)

end

mutual

/-- Whether calls are accepted does not depend on places. -/
theorem callsAccepted_shift {k : Nat} {e : Expr} (h : e.CallsAccepted) :
    (e.shift k).CallsAccepted := by
  match e with
  | .number .. => exact callsAccepted_number _ _
  | .text .. => exact callsAccepted_text _ _
  | .name .. => exact callsAccepted_name _ _
  | .binary .. =>
    rw [callsAccepted_binary] at h
    exact (callsAccepted_binary _ _ _ _).2 ⟨callsAccepted_shift h.1, callsAccepted_shift h.2⟩
  | .unary .. =>
    rw [callsAccepted_unary] at h
    exact (callsAccepted_unary _ _ _).2 (callsAccepted_shift h)
  | .call _ args _ =>
    rw [callsAccepted_call] at h
    refine (callsAccepted_call _ _ _).2 ⟨?_, callsAccepted_shiftAll h.2⟩
    rw [shiftAll_eq_map, List.length_map]
    exact h.1
  | .assign .. =>
    rw [callsAccepted_assign] at h
    exact (callsAccepted_assign _ _ _).2 (callsAccepted_shift h)
  | .sequence .. =>
    rw [callsAccepted_sequence] at h
    exact (callsAccepted_sequence _ _).2 (callsAccepted_shiftAll h)

theorem callsAccepted_shiftAll {k : Nat} {es : List Expr} (h : ∀ e ∈ es, e.CallsAccepted) :
    ∀ e ∈ shiftAll k es, e.CallsAccepted := by
  match es with
  | [] => exact h
  | e :: es =>
    rw [List.forall_mem_cons] at h
    exact List.forall_mem_cons.2 ⟨callsAccepted_shift h.1, callsAccepted_shiftAll h.2⟩

end

end Expr

end Calculator
