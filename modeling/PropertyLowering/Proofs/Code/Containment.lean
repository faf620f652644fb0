import Mathlib.Data.List.Basic
import Mathlib.Tactic.Lemma
import PropertyLowering.Proofs.Code.Layout

/-!
Operation codes that a chunk has in order.

One pass over the chunk awaits the expected codes one after the other and takes each at the first
place where it comes. Nothing is lost by taking it early: what is still awaited is found in the rest
of the codes exactly if what was awaited before is found in all of them. Main statement: the pass
ends with nothing awaited just for the subsequences of the operation codes, and operands play no
part in it.
-/

namespace PropertyLowering.Chunk

section Awaiting

variable {expected ops later : List Opcode} {op : Opcode}

/-- Taking a code where it first comes does not make the rest harder to find. -/
lemma await_sublist_iff : (await expected op).Sublist ops ↔ expected.Sublist (op :: ops) := by
  cases expected with
  | nil => simp [await]
  | cons e rest =>
    by_cases he : e = op
    · subst he
      rw [await, if_pos rfl, List.cons_sublist_cons]
    · rw [await, if_neg he, List.cons_sublist_cons', or_iff_left fun h => he h.1]

lemma foldl_await_sublist_iff :
    (ops.foldl await expected).Sublist later ↔ expected.Sublist (ops ++ later) := by
  induction ops generalizing expected with
  | nil => rfl
  | cons op ops ih => rw [List.foldl_cons, ih, await_sublist_iff, List.cons_append]

lemma hasInOrder_iff (c : Chunk) : c.hasInOrder expected = true ↔ expected.Sublist c.opcodes := by
  rw [hasInOrder, List.isEmpty_iff, ← List.sublist_nil, foldl_await_sublist_iff, List.append_nil]

end Awaiting

section Operands

variable {n skip : Nat} {xs ys : List UInt8} {x : Nat × Opcode}

/-- The offset is that of an operand byte of the instruction. -/
def Covers (x : Nat × Opcode) (k : Nat) : Prop := x.1 < k ∧ k ≤ x.1 + x.2.operandSize

/-- The offset is that of an operand byte, also of an operand that the end of the chunk cuts off. -/
def IsOperand (c : Chunk) (k : Nat) : Prop := ∃ x ∈ c.instructions, Covers x k

instance (x : Nat × Opcode) : DecidablePred (Covers x) := fun k =>
  inferInstanceAs (Decidable (x.1 < k ∧ k ≤ x.1 + x.2.operandSize))

instance (c : Chunk) : DecidablePred c.IsOperand := fun k =>
  inferInstanceAs (Decidable (∃ x ∈ c.instructions, Covers x k))

lemma le_of_mem_scan (h : x ∈ scan n skip xs) : n + skip ≤ x.1 := by
  fun_induction scan n skip xs with
  | case1 => cases h
  | case2 n skip b rest ih =>
    have := ih h
    omega
  | case3 n b rest op hop ih =>
    rcases List.mem_cons.mp h with rfl | h
    · exact Nat.le_refl n
    · have := ih h
      omega
  | case4 n b rest hop ih =>
    have := ih h
    omega

lemma not_covers_start (h : x ∈ scan n 0 xs) : ¬ Covers x n :=
  fun hcovers => Nat.not_lt.mpr (le_of_mem_scan h) hcovers.1

/-- The scan looks at no operand. It starts behind the bytes that are skipped, so agreement is asked
for from there on. -/
lemma scan_congr (hlen : ys.length = xs.length)
    (hagree : ∀ k, skip ≤ k → (∀ x ∈ scan n skip xs, ¬ Covers x (n + k)) → ys[k]? = xs[k]?) :
    scan n skip ys = scan n skip xs := by
  fun_induction scan n skip xs generalizing ys with
  | case1 n skip => rw [List.length_eq_zero_iff.mp hlen, scan]
  | case2 n skip b rest ih =>
    obtain ⟨y, ys, rfl⟩ := List.exists_cons_of_length_eq_add_one hlen
    rw [scan]
    refine ih (Nat.succ.inj hlen) fun k hk hfree => ?_
    rw [Nat.add_right_comm] at hfree
    exact hagree (k + 1) (Nat.succ_le_succ hk) hfree
  | case3 n b rest op hop ih =>
    obtain ⟨y, ys, rfl⟩ := List.exists_cons_of_length_eq_add_one hlen
    have hscan : scan n 0 (b :: rest) = (n, op) :: scan (n + 1) op.operandSize rest := by
      rw [scan, hop]
    rw [← hscan] at hagree
    have hhead : y = b := by
      simpa using hagree 0 (Nat.zero_le 0) fun x hx => not_covers_start hx
    rw [hhead, scan, hop]
    simp only
    rw [ih (Nat.succ.inj hlen) fun k hk hfree => ?_]
    refine hagree (k + 1) (Nat.zero_le _) ?_
    rw [hscan, List.forall_mem_cons]
    refine ⟨fun hcovers => ?_, ?_⟩
    · have hend : n + (k + 1) ≤ n + op.operandSize := hcovers.2
      omega
    · rwa [Nat.add_right_comm] at hfree
  | case4 n b rest hop ih =>
    obtain ⟨y, ys, rfl⟩ := List.exists_cons_of_length_eq_add_one hlen
    have hscan : scan n 0 (b :: rest) = scan (n + 1) 0 rest := by rw [scan, hop]
    rw [← hscan] at hagree
    have hhead : y = b := by
      simpa using hagree 0 (Nat.zero_le 0) fun x hx => not_covers_start hx
    rw [hhead, scan, hop]
    simp only
    refine ih (Nat.succ.inj hlen) fun k hk hfree => hagree (k + 1) (Nat.zero_le _) ?_
    rwa [hscan, ← Nat.add_assoc, Nat.add_right_comm]

lemma instructions_congr {c d : Chunk} (hsize : d.size = c.size)
    (hagree : ∀ k, ¬ c.IsOperand k → d.byteAt? k = c.byteAt? k) :
    d.instructions = c.instructions := by
  refine scan_congr (by rw [length_code, length_code, hsize]) fun k _ hfree => ?_
  rw [← byteAt?_eq, ← byteAt?_eq]
  refine hagree k ?_
  rintro ⟨x, hx, hcovers⟩
  exact hfree x hx (by rwa [Nat.zero_add])

end Operands

/-- **The ordered check is exact.** Whatever bytes a chunk holds, operation codes are found in order
just if they are a subsequence of its operation codes: whichever of these are picked, from first to
last, are found, and with some codes so is every part of them that keeps their order. The answer is
the same for a chunk that holds other bytes in place of operands. -/
theorem hasInOrder_exact (c : Chunk) :
    (∀ expected, c.hasInOrder expected = true ↔ expected.Sublist c.opcodes) ∧
    (∀ picks : List (Fin c.opcodes.length), picks.Pairwise (· < ·) →
      c.hasInOrder (picks.map (c.opcodes[·])) = true) ∧
    (∀ expected part, part.Sublist expected → c.hasInOrder expected = true →
      c.hasInOrder part = true) ∧
    ∀ d : Chunk, d.size = c.size → (∀ k, ¬ c.IsOperand k → d.byteAt? k = c.byteAt? k) →
      ∀ expected, d.hasInOrder expected = c.hasInOrder expected := by
  refine ⟨fun _ => c.hasInOrder_iff, fun picks hpicks => ?picked,
    fun expected part hpart hexpected => ?part, fun d hsize hagree expected => ?operands⟩
  case picked => exact c.hasInOrder_iff.mpr (List.map_getElem_sublist hpicks)
  case part => exact c.hasInOrder_iff.mpr (hpart.trans (c.hasInOrder_iff.mp hexpected))
  case operands =>
    rw [Bool.eq_iff_iff, hasInOrder_iff, hasInOrder_iff, opcodes, opcodes,
      instructions_congr hsize hagree]

/-- Code with a byte that is no operation code, operands that look like operation codes, and an
operand that is cut off; and the same code with other operands on another line. -/
theorem hasInOrder_exact_mixed :
    let c := empty.write [200, 3, 10, 5, 5, 5, 3, 0, 7, 8, 1] 1
    let d := empty.write [200, 3, 10, 255, 3, 5, 3, 0, 2, 8, 9] 2
    let expected : List Opcode := [.pushZero, .pop, .pushZero, .constant]
    c.opcodes = [.pushZero, .getStatic, .pop, .pushZero, .constant, .getLocalWide] ∧
      c.hasInOrder [.pushZero, .pop, .getLocalWide] = true ∧
      c.hasInOrder expected = true ∧ c.hasInOrder [.pop, .constant] = true ∧
      c.hasInOrder [.pop, .pop] = false ∧ d.hasInOrder expected = true := by
  intro c d expected
  obtain ⟨hexact, hpicked, hpart, hoperands⟩ := hasInOrder_exact c
  have hcodes : c.opcodes = [.pushZero, .getStatic, .pop, .pushZero, .constant, .getLocalWide] := by
    decide
  have hexpected : c.hasInOrder expected = true := (hexact expected).mpr (by decide)
  have hagree : ∀ k, ¬ c.IsOperand k → d.byteAt? k = c.byteAt? k := by
    intro k hk
    by_cases hlt : k < 11
    · have hall : ∀ k < 11, ¬ c.IsOperand k → d.byteAt? k = c.byteAt? k := by decide
      exact hall k hlt hk
    · have hc : c.code.length ≤ k := Nat.not_lt.mp hlt
      have hd : d.code.length ≤ k := Nat.not_lt.mp hlt
      rw [byteAt?_eq, byteAt?_eq, List.getElem?_eq_none hc, List.getElem?_eq_none hd]
  refine ⟨hcodes, hpicked [⟨0, by decide⟩, ⟨2, by decide⟩, ⟨5, by decide⟩] (by decide), hexpected,
    hpart expected [.pop, .constant] (by decide) hexpected, ?_,
    (hoperands d rfl hagree expected).trans hexpected⟩
  rw [Bool.eq_false_iff, Ne, hexact]
  decide

end PropertyLowering.Chunk
