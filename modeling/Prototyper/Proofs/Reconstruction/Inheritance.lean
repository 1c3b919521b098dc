import Prototyper.Proofs.Resolution.Denotation
import Prototyper.Signature.Reconstruction

/-!
# What an entry inherits

`Lineage` is the line of entries from one that is asked for an attribute to the nearest one that
carries it, or to the end of the line if none does. `Nearest` adds what a search is limited to: at
most eight links, and no entry twice. `carrier_eq_ok_iff` says that the search finds exactly that,
and the rest of the module reads values and types off what it finds. An entry refers to the next one
of its line by `Entry.originLink`.
-/

namespace Prototyper

namespace Entry

/-- The value by which an entry refers to its origin: that of its abstract origin or, without one,
that of its specification. -/
def originLink (e : Entry) : Option Value :=
  match e.attr .abstractOrigin with
  | some v => some v
  | none => e.attr .specification

/-- An entry has the attributes that it has values for. -/
lemma hasAttr_iff {e : Entry} {a : Attr} : e.hasAttr a = true ↔ e.attr a ≠ none :=
  Option.isSome_iff_ne_none

/-- The link that is followed from an entry is the one to its origin. -/
lemma attr_originAttr (e : Entry) : e.attr e.originAttr = e.originLink := by
  unfold originAttr originLink hasAttr
  cases own : e.attr .abstractOrigin <;> simp [own]

/-- The link to the origin is the abstract origin, or without one the specification. -/
lemma originAttr_cases (e : Entry) : e.originAttr = .abstractOrigin ∨
    e.originAttr = .specification ∧ e.attr .abstractOrigin = none := by
  unfold originAttr hasAttr
  cases own : e.attr .abstractOrigin <;> simp

/-- An entry without a link has no origin. -/
lemma origin_eq_none_iff {e : Entry} : e.origin = .ok none ↔ e.originLink = none := by
  rw [origin, reference_eq_none_iff, attr_originAttr]

/-- The origin of an entry is the one that its link names. -/
lemma origin_eq_some_iff {e : Entry} {id : EntryId} :
    e.origin = .ok (some id) ↔ e.originLink = some (.ref id) := by
  rw [origin, reference_eq_some_iff, attr_originAttr]

end Entry

namespace Store

/-- Entries that leave an attribute each to the next one, up to the first one that carries it or to
one without an origin. -/
inductive Lineage (s : Store) (a : Attr) : List Entry → Option Entry → Prop where
  | carrier {e} :
    e.attr a ≠ none →
    Lineage s a [e] (some e)
  | exhausted {e} :
    e.attr a = none →
    e.originLink = none →
    Lineage s a [e] none
  | leaves {e id o line found} :
    e.attr a = none →
    e.originLink = some (.ref id) →
    s.get? id = some o →
    Lineage s a (o :: line) found →
    Lineage s a (e :: o :: line) found

/-- The nearest entry that carries an attribute for another one, at most eight links away and with
no entry met twice on the way; none if the origins end without one. -/
def Nearest (s : Store) (a : Attr) (e : Entry) (found : Option Entry) : Prop :=
  ∃ line, s.Lineage a (e :: line) found ∧ ((e :: line).map Entry.id).Nodup ∧ line.length ≤ 8

/-- The value that an entry has for an attribute, its own or that of the nearest carrier. -/
def Inherits (s : Store) (e : Entry) (a : Attr) (v : Option Value) : Prop :=
  ∃ found, s.Nearest a e found ∧ v = found.bind fun c => c.attr a

/-! ## The search -/

variable {s : Store} {a : Attr}

/-- What a search for an attribute does at an entry: it stops at a carrier or where there is no
origin, and with a link left it goes on to an origin that it did not visit before. -/
lemma carrierFrom_eq_ok_iff {links : Nat} {visited : List EntryId} {e : Entry}
    {found : Option Entry} :
    s.carrierFrom a links visited e = .ok found ↔
      (e.attr a ≠ none ∧ found = some e) ∨
      (e.attr a = none ∧ e.originLink = none ∧ found = none) ∨
      ∃ left id o, links = left + 1 ∧ e.attr a = none ∧ e.originLink = some (.ref id) ∧
        id ∉ visited ∧ s.get? id = some o ∧ s.carrierFrom a left (id :: visited) o = .ok found := by
  by_cases carries : e.attr a = none
  case neg =>
    have own := Entry.hasAttr_iff.2 carries
    have stops : s.carrierFrom a links visited e = .ok (some e) := by
      cases links with
      | zero => rw [carrierFrom_zero, if_pos own]
      | succ links => rw [carrierFrom_succ, if_pos own]
    rw [stops]
    simp [carries, eq_comm]
  case pos =>
    have other : ¬ e.hasAttr a = true := fun own => Entry.hasAttr_iff.1 own carries
    cases links with
    | zero =>
      rw [carrierFrom_zero, if_neg other, bind_eq_ok_iff]
      constructor
      · rintro ⟨_ | id, origin, h⟩
        · exact .inr (.inl ⟨carries, Entry.origin_eq_none_iff.1 origin, (Except.ok.inj h).symm⟩)
        · cases h
      · rintro (⟨own, -⟩ | ⟨-, noOrigin, rfl⟩ | ⟨_, _, _, ⟨⟩, _⟩)
        · exact absurd carries own
        · exact ⟨none, Entry.origin_eq_none_iff.2 noOrigin, rfl⟩
    | succ links =>
      rw [carrierFrom_succ, if_neg other, bind_eq_ok_iff]
      constructor
      · rintro ⟨_ | id, origin, h⟩
        · exact .inr (.inl ⟨carries, Entry.origin_eq_none_iff.1 origin, (Except.ok.inj h).symm⟩)
        · simp only at h
          split at h
          case isTrue => cases h
          case isFalse fresh =>
            obtain ⟨o, ho, h⟩ := bind_eq_ok_iff.1 h
            have origin' := Entry.origin_eq_some_iff.1 origin
            exact .inr (.inr ⟨links, id, o, rfl, carries, origin', fresh, lookup_eq_ok_iff.1 ho, h⟩)
      · rintro (⟨own, -⟩ | ⟨-, noOrigin, rfl⟩ | ⟨_, id, o, ⟨⟩, -, origin, fresh, ho, h⟩)
        · exact absurd carries own
        · exact ⟨none, Entry.origin_eq_none_iff.2 noOrigin, rfl⟩
        · refine ⟨some id, Entry.origin_eq_some_iff.2 origin, ?_⟩
          simp only [if_neg fresh]
          exact bind_eq_ok_iff.2 ⟨o, lookup_eq_ok_iff.2 ho, h⟩

/-- What the search finds stands at the end of a line of entries that it did not visit before. -/
lemma lineage_of_carrierFrom {links : Nat} {visited : List EntryId} {e : Entry}
    {found : Option Entry} (h : s.carrierFrom a links visited e = .ok found) :
    ∃ line, s.Lineage a (e :: line) found ∧ (line.map Entry.id).Nodup ∧
      (∀ o ∈ line, o.id ∉ visited) ∧ line.length ≤ links := by
  -- `e` itself counts as visited, so only the entries behind it are known to be new
  induction links generalizing visited e with
  | zero =>
    obtain ⟨own, rfl⟩ | ⟨missing, noOrigin, rfl⟩ | ⟨_, _, _, ⟨⟩, _⟩ := carrierFrom_eq_ok_iff.1 h
    · exact ⟨[], .carrier own, List.nodup_nil, by simp, Nat.le_refl 0⟩
    · exact ⟨[], .exhausted missing noOrigin, List.nodup_nil, by simp, Nat.le_refl 0⟩
  | succ links ih =>
    obtain ⟨own, rfl⟩ | ⟨missing, noOrigin, rfl⟩ |
      ⟨_, id, o, ⟨⟩, missing, origin, fresh, ho, rest⟩ := carrierFrom_eq_ok_iff.1 h
    · exact ⟨[], .carrier own, List.nodup_nil, by simp, Nat.zero_le _⟩
    · exact ⟨[], .exhausted missing noOrigin, List.nodup_nil, by simp, Nat.zero_le _⟩
    · obtain ⟨line, lineage, distinct, unvisited, short⟩ := ih rest
      have own : o.id = id := id_of_get? ho
      refine ⟨o :: line, .leaves missing origin ho lineage, ?_, ?_, Nat.succ_le_succ short⟩
      · rw [List.map_cons, List.nodup_cons, own]
        refine ⟨fun old => ?_, distinct⟩
        obtain ⟨x, hx, same⟩ := List.mem_map.1 old
        exact unvisited x hx (same ▸ List.mem_cons_self)
      · intro x hx
        rcases List.mem_cons.1 hx with rfl | hx
        · rw [own]
          exact fresh
        · exact fun old => unvisited x hx (List.mem_cons_of_mem id old)

/-- The search arrives at the end of each line of entries that it did not visit before. -/
lemma Lineage.carrierFrom {path : List Entry} {found : Option Entry} (h : s.Lineage a path found)
    {links : Nat} {visited : List EntryId} {e : Entry} {line : List Entry}
    (start : path = e :: line)
    (distinct : (line.map Entry.id).Nodup) (unvisited : ∀ o ∈ line, o.id ∉ visited)
    (short : line.length ≤ links) : s.carrierFrom a links visited e = .ok found := by
  induction h generalizing links visited e line with
  | carrier own =>
    cases start
    exact carrierFrom_eq_ok_iff.2 (.inl ⟨own, rfl⟩)
  | exhausted missing noOrigin =>
    cases start
    exact carrierFrom_eq_ok_iff.2 (.inr (.inl ⟨missing, noOrigin, rfl⟩))
  | @leaves e id o line found missing origin ho _ ih =>
    cases start
    have own : o.id = id := id_of_get? ho
    rw [List.map_cons, List.nodup_cons, own] at distinct
    cases links with
    | zero => exact absurd short (Nat.not_succ_le_zero _)
    | succ links =>
      -- from `o` on, its identifier is visited too, and the line does not come back to it
      have fresh : id ∉ visited := own ▸ unvisited o List.mem_cons_self
      have unvisited' : ∀ x ∈ line, x.id ∉ id :: visited := by
        intro x hx old
        rcases List.mem_cons.1 old with same | old
        · exact distinct.1 (same ▸ List.mem_map_of_mem hx)
        · exact unvisited x (List.mem_cons_of_mem o hx) old
      have rest := ih rfl distinct.2 unvisited' (Nat.le_of_succ_le_succ short)
      exact carrierFrom_eq_ok_iff.2
        (.inr (.inr ⟨links, id, o, rfl, missing, origin, fresh, ho, rest⟩))

variable {e : Entry}

/-- The search for an attribute finds the nearest carrier. -/
lemma carrier_eq_ok_iff {found : Option Entry} :
    s.carrier a e = .ok found ↔ s.Nearest a e found := by
  constructor
  · intro h
    obtain ⟨line, lineage, distinct, unvisited, short⟩ := lineage_of_carrierFrom h
    refine ⟨line, lineage, ?_, short⟩
    rw [List.map_cons, List.nodup_cons]
    refine ⟨fun old => ?_, distinct⟩
    obtain ⟨x, hx, same⟩ := List.mem_map.1 old
    exact unvisited x hx (same ▸ List.mem_singleton_self e.id)
  · rintro ⟨line, lineage, distinct, short⟩
    rw [List.map_cons, List.nodup_cons] at distinct
    refine lineage.carrierFrom rfl distinct.2 (fun x hx old => ?_) short
    exact distinct.1 (List.mem_singleton.1 old ▸ List.mem_map_of_mem hx)

/-- An entry that has an attribute carries it. -/
lemma carrier_of_own (own : e.attr a ≠ none) : s.carrier a e = .ok (some e) :=
  carrier_eq_ok_iff.2 ⟨[], .carrier own, List.pairwise_singleton _ _, Nat.zero_le _⟩

/-- A line ends at an entry that carries the attribute, unless at the end of the origins. -/
lemma Lineage.carries {path : List Entry} {c : Entry} (h : s.Lineage a path (some c)) :
    c.attr a ≠ none := by
  generalize found : some c = f at h
  induction h with
  | carrier own => cases found; exact own
  | exhausted => cases found
  | leaves _ _ _ _ ih => exact ih found

/-- A line from an entry with a value for the attribute goes no further. -/
lemma Lineage.eq_of_carries {line : List Entry} {found : Option Entry} {v : Value}
    (h : s.Lineage a (e :: line) found) (value : e.attr a = some v) : found = some e := by
  cases h with
  | carrier => rfl
  | exhausted missing => cases missing.symm.trans value
  | leaves missing => cases missing.symm.trans value

/-! ## Lines of entries -/

/-- A search for an attribute from an entry is over after a number of links at most, be it at a
carrier or where there is no origin. -/
def EndsWithin (s : Store) (a : Attr) (links : Nat) (e : Entry) : Prop :=
  ∃ line found, s.Lineage a (e :: line) found ∧ line.length ≤ links

/-- An entry leaves its attributes to one other entry, so there is one line from it. -/
lemma Lineage.unique {path path' : List Entry} {found found' : Option Entry}
    (h : s.Lineage a path found) (h' : s.Lineage a path' found')
    (start : path.head? = path'.head?) : path = path' ∧ found = found' := by
  induction h generalizing path' with
  | carrier own =>
    cases h' with
    | carrier => cases start; exact ⟨rfl, rfl⟩
    | exhausted missing => cases start; exact absurd missing own
    | leaves missing => cases start; exact absurd missing own
  | exhausted missing noOrigin =>
    cases h' with
    | carrier own => cases start; exact absurd missing own
    | exhausted => cases start; exact ⟨rfl, rfl⟩
    | leaves _ origin => cases start; cases noOrigin.symm.trans origin
  | leaves missing origin ho _ ih =>
    cases h' with
    | carrier own => cases start; exact absurd missing own
    | exhausted _ noOrigin => cases start; cases noOrigin.symm.trans origin
    | leaves _ origin' ho' rest =>
      cases start
      cases origin.symm.trans origin'
      cases ho.symm.trans ho'
      obtain ⟨same, rfl⟩ := ih rest rfl
      exact ⟨congrArg _ same, rfl⟩

/-- The entries of a line are in the store if the first one is. -/
lemma Lineage.mem_toList {path : List Entry} {found : Option Entry} (h : s.Lineage a path found)
    (start : ∀ e ∈ path.head?, e ∈ s.toList) : ∀ x ∈ path, x ∈ s.toList := by
  induction h with
  | carrier | exhausted =>
    intro x hx
    cases List.mem_singleton.1 hx
    exact start _ rfl
  | leaves _ _ ho _ ih =>
    intro x hx
    rcases List.mem_cons.1 hx with rfl | hx
    · exact start _ rfl
    · exact ih (fun o first => Option.some.inj first ▸ mem_of_get? ho) x hx

/-- From each entry of a line, the rest of the line is a line. -/
lemma Lineage.rest {path : List Entry} {found : Option Entry} (h : s.Lineage a path found)
    {x : Entry} (hx : x ∈ path) :
    ∃ line, s.Lineage a (x :: line) found ∧ line.length < path.length := by
  induction h with
  | carrier own =>
    cases List.mem_singleton.1 hx
    exact ⟨[], .carrier own, Nat.one_pos⟩
  | exhausted missing noOrigin =>
    cases List.mem_singleton.1 hx
    exact ⟨[], .exhausted missing noOrigin, Nat.one_pos⟩
  | leaves missing origin ho behind ih =>
    rcases List.mem_cons.1 hx with rfl | hx
    · exact ⟨_, .leaves missing origin ho behind, Nat.lt_succ_self _⟩
    · obtain ⟨line, lineage, shorter⟩ := ih hx
      exact ⟨line, lineage, Nat.lt_succ_of_lt shorter⟩

/-! ## Values and types -/

/-- An entry has no value for an attribute when there is no carrier near. -/
lemma inherits_none_iff : s.Inherits e a none ↔ s.Nearest a e none := by
  constructor
  · rintro ⟨_ | c, near, missing⟩
    · exact near
    · obtain ⟨line, lineage, -⟩ := near
      exact absurd missing.symm lineage.carries
  · exact fun near => ⟨none, near, rfl⟩

/-- An inherited value is that of the nearest carrier. -/
lemma inherits_some_iff {v : Value} :
    s.Inherits e a (some v) ↔ ∃ c, s.Nearest a e (some c) ∧ c.attr a = some v := by
  constructor
  · rintro ⟨_ | c, near, value⟩
    · cases value
    · exact ⟨c, near, value.symm⟩
  · rintro ⟨c, near, value⟩
    exact ⟨some c, near, value.symm⟩

/-- The line of an entry without an origin is over at the entry. -/
lemma lineage_of_noOrigin (s : Store) (noOrigin : e.originLink = none) :
    ∃ found, s.Lineage a [e] found ∧ e.attr a = found.bind fun c => c.attr a := by
  by_cases carries : e.attr a = none
  case pos => exact ⟨none, .exhausted carries noOrigin, carries⟩
  case neg => exact ⟨some e, .carrier carries, rfl⟩

/-- Without an origin, an entry has the values of its own attributes and no others. -/
lemma inherits_of_noOrigin (noOrigin : e.originLink = none) : s.Inherits e a (e.attr a) := by
  obtain ⟨found, lineage, value⟩ := s.lineage_of_noOrigin noOrigin
  exact ⟨found, ⟨[], lineage, List.pairwise_singleton _ _, Nat.zero_le _⟩, value⟩

/-- Without an origin a search ends at once. -/
lemma endsWithin_of_noOrigin {links : Nat} (noOrigin : e.originLink = none) :
    s.EndsWithin a links e := by
  obtain ⟨found, lineage, -⟩ := s.lineage_of_noOrigin noOrigin
  exact ⟨[], found, lineage, Nat.zero_le _⟩

/-- The value of an attribute is the one that is inherited. -/
lemma inherited_eq_ok_iff {v : Option Value} :
    s.inherited a e = .ok v ↔ s.Inherits e a v := by
  unfold inherited
  rw [bind_eq_ok_iff]
  simp only [carrier_eq_ok_iff]
  exact exists_congr fun found => and_congr_right fun _ =>
    ⟨fun h => (Except.ok.inj h).symm, fun h => congrArg Except.ok h.symm⟩

/-- The type of an entry is the one that its own or inherited type attribute denotes. -/
lemma inheritedType_eq_ok_iff {type : Option CType} :
    s.inheritedType e = .ok type ↔
      (s.Inherits e .type none ∧ type = none) ∨
      ∃ t d, s.Inherits e .type (some (.ref t)) ∧ s.Denotes t d ∧ type = some d := by
  unfold inheritedType
  rw [bind_eq_ok_iff, inherits_none_iff]
  simp only [carrier_eq_ok_iff, inherits_some_iff]
  constructor
  · rintro ⟨_ | c, near, h⟩
    · exact .inl ⟨near, (Except.ok.inj h).symm⟩
    · obtain ⟨_ | t, reference, h⟩ := bind_eq_ok_iff.1 h
      · obtain ⟨line, lineage, -⟩ := near
        exact absurd (Entry.reference_eq_none_iff.1 reference) lineage.carries
      · obtain ⟨d, resolved, h⟩ := bind_eq_ok_iff.1 h
        exact .inr ⟨t, d, ⟨c, near, Entry.reference_eq_some_iff.1 reference⟩,
          denotes_of_walk resolved, (Except.ok.inj h).symm⟩
  · rintro (⟨near, rfl⟩ | ⟨t, d, ⟨c, near, reference⟩, denotes, rfl⟩)
    · exact ⟨none, near, rfl⟩
    · refine ⟨some c, near, bind_eq_ok_iff.2 ⟨some t, ?_, ?_⟩⟩
      · exact Entry.reference_eq_some_iff.2 reference
      · exact bind_eq_ok_iff.2 ⟨d, denotes.resolve, rfl⟩

end Store

end Prototyper
