import Prototyper.Proofs.Declaration.Reading

/-!
# Parentheses in a declaration

The parentheses of a declaration come in pairs (`Balanced`), and each opening one is followed by a
star (`Grouped`), since they stand around pointers to arrays only. So where the declared text has a
parameter list, both of its ends can be found: its opening parenthesis is the first one that no star
follows (`Grouped.unique`), and its closing one is the first one without a partner
(`Balanced.unique`).
-/

namespace Prototyper.Declarator

/-- Parentheses come in pairs: there are as many closing ones as opening ones, and never more of
them in front of any place. -/
structure Balanced (ts : List Token) : Prop where
  total : ts.count (.mark ')') = ts.count (.mark '(')
  front : ∀ p q, ts = p ++ q → p.count (.mark ')') ≤ p.count (.mark '(')

/-- Each opening parenthesis is followed by a star. -/
def Grouped (ts : List Token) : Prop :=
  ∀ p q, ts = p ++ .mark '(' :: q → q.head? = some (.mark '*')

/-- Where one token stands in two places, the part in front of one place is the same as that in
front of the other one, or goes beyond it. -/
lemma append_cons_cases {p p' q q' : List Token} {t : Token} (e : p ++ t :: q = p' ++ t :: q') :
    (p = p' ∧ q = q') ∨ (∃ as, p' = p ++ t :: as ∧ q = as ++ t :: q') ∨
      ∃ as, p = p' ++ t :: as ∧ q' = as ++ t :: q := by
  obtain ⟨as, rfl, rest⟩ | ⟨as, rfl, rest⟩ := List.append_eq_append_iff.1 e
  · cases as with
    | nil =>
      cases rest
      exact .inl ⟨(List.append_nil p).symm, rfl⟩
    | cons t as =>
      cases rest
      exact .inr (.inl ⟨as, rfl, rfl⟩)
  · cases as with
    | nil =>
      cases rest
      exact .inl ⟨List.append_nil p', rfl⟩
    | cons t as =>
      cases rest
      exact .inr (.inr ⟨as, rfl, rfl⟩)

/-! ## Pairs -/

/-- Without parentheses all of them match. -/
lemma balanced_of_notMem {ts : List Token} (opening : .mark '(' ∉ ts) (closing : .mark ')' ∉ ts) :
    Balanced ts := by
  refine ⟨?_, fun p q e => ?_⟩
  · rw [List.count_eq_zero_of_not_mem opening, List.count_eq_zero_of_not_mem closing]
  · rw [List.count_eq_zero_of_not_mem fun mem => closing (e ▸ List.mem_append_left q mem)]
    exact Nat.zero_le _

/-- Where parentheses match in two texts, they do in both together. -/
lemma Balanced.append {ts ts' : List Token} (h : Balanced ts) (h' : Balanced ts') :
    Balanced (ts ++ ts') := by
  refine ⟨?_, fun p q e => ?_⟩
  · rw [List.count_append, List.count_append, h.total, h'.total]
  · obtain ⟨as, rfl, e'⟩ | ⟨bs, rfl, -⟩ := List.append_eq_append_iff.1 e
    · have rest := h'.front as q e'
      rw [List.count_append, List.count_append, h.total]
      omega
    · exact h.front p bs rfl

/-- Parentheses around balanced tokens are a pair. -/
lemma Balanced.group {ts : List Token} (h : Balanced ts) :
    Balanced (.mark '(' :: ts ++ [.mark ')']) := by
  have total := h.total
  refine ⟨by simp [total], fun p q e => ?_⟩
  cases p with
  | nil => exact Nat.le_refl _
  | cons t p =>
    obtain ⟨rfl, inner⟩ := List.cons.inj e
    obtain ⟨as, rfl, e'⟩ | ⟨bs, rfl, -⟩ := List.append_eq_append_iff.1 inner
    · -- the part goes up to the last parenthesis, or ends behind it
      have few : as.count (.mark ')') ≤ [Token.mark ')'].count (.mark ')') := by
        rw [e']
        exact (List.sublist_append_left as q).count_le _
      simp at few ⊢
      omega
    · have inner := h.front p bs rfl
      simp
      omega

/-- A closing parenthesis behind balanced tokens has no partner there. -/
lemma Balanced.not_balanced {p q : List Token} (h : Balanced p) :
    ¬ Balanced (p ++ .mark ')' :: q) := by
  intro h'
  have front := h'.front (p ++ [.mark ')']) q (by simp)
  have total := h.total
  simp at front
  omega

/-- The first closing parenthesis without a partner is in one place only. -/
lemma Balanced.unique {p p' q q' : List Token} (h : Balanced p) (h' : Balanced p')
    (e : p ++ .mark ')' :: q = p' ++ .mark ')' :: q') : p = p' ∧ q = q' := by
  obtain same | ⟨as, rfl, -⟩ | ⟨as, rfl, -⟩ := append_cons_cases e
  · exact same
  · exact absurd h' h.not_balanced
  · exact absurd h h'.not_balanced

/-! ## Groups -/

/-- Where there is no opening parenthesis, each is followed by a star. -/
lemma grouped_of_notMem {ts : List Token} (opening : .mark '(' ∉ ts) : Grouped ts := by
  rintro p q rfl
  exact absurd (List.mem_append_right p List.mem_cons_self) opening

/-- Where stars follow the opening parentheses of two texts, they do in both together. -/
lemma Grouped.append {ts ts' : List Token} (h : Grouped ts) (h' : Grouped ts') :
    Grouped (ts ++ ts') := by
  intro p q e
  obtain ⟨as, rfl, e'⟩ | ⟨as, rfl, e'⟩ := List.append_eq_append_iff.1 e
  · exact h' as q e'
  · cases as with
    | nil => exact h' [] q e'.symm
    | cons t as =>
      cases e'
      have star := h p as rfl
      change (as ++ ts').head? = _
      rw [List.head?_append, star]
      rfl

/-- A parenthesis may be put in front of a star. -/
lemma Grouped.group {ts : List Token} (h : Grouped ts) :
    Grouped (.mark '(' :: .mark '*' :: ts) := by
  intro p q e
  match p with
  | [] =>
    cases e
    rfl
  | [t] => cases e
  | t :: t' :: p =>
    simp only [List.cons_append, List.cons.injEq] at e
    exact h p q e.2.2

/-- The first opening parenthesis that no star follows is in one place only. -/
lemma Grouped.unique {p p' q q' : List Token} (h : Grouped p) (h' : Grouped p')
    (hq : q.head? ≠ some (.mark '*')) (hq' : q'.head? ≠ some (.mark '*'))
    (e : p ++ .mark '(' :: q = p' ++ .mark '(' :: q') : p = p' ∧ q = q' := by
  -- behind the parenthesis that ends the shorter part, the longer one goes on with a star
  have star : ∀ {p as q : List Token}, Grouped (p ++ .mark '(' :: as) →
      (as ++ q).head? = some (.mark '*') := by
    intro p as q h
    rw [List.head?_append, h p as rfl]
    rfl
  obtain same | ⟨as, rfl, rfl⟩ | ⟨as, rfl, rfl⟩ := append_cons_cases e
  · exact same
  · exact absurd (star h') hq
  · exact absurd (star h) hq'

end Prototyper.Declarator
