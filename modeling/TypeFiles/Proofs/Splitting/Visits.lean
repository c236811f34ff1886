/-
# The nodes that a splitting comes to

Splitting goes down a declaration tree from node to node.  There are two ways down: from a namespace
into one of its members, and through a remark to the declaration below it.  No other node is looked
into.  The steps taken from the root to a node are its *route*.

| step | seen on the way |
| --- | --- |
| `member name i` | the namespace `name`, its member number `i` |
| `remark w` | the wrapper `w`: the remark and what it stands around |

`Declaration.Leads` says which node a route leads to, with no order among the routes.
`Declaration.visits` lists the nodes with their routes.  The two agree (`mem_visits_iff`), and the
list is in document order (`visits_pairwise`): a node comes before what is below it, and the members
of a namespace come one after the other.  Since that order is strict, no route is listed twice.
-/

import TypeFiles.Splitting

namespace TypeFiles
namespace Splitting

/-- A step down the tree. -/
inductive Descent where
  | member (scope : String) (index : Nat)
  | remark (wrapper : Wrapper)

namespace Descent

/-- The namespace that a step leaves behind. -/
def scope? : Descent → Option String
  | .member name _ => some name
  | .remark _ => none

/-- The wrapper that a step goes through. -/
def wrapper? : Descent → Option Wrapper
  | .member _ _ => none
  | .remark w => some w

/-- Of two members of a namespace, the one with the smaller number comes first. -/
def Before : Descent → Descent → Prop
  | .member _ i, .member _ k => i < k
  | _, _ => False

theorem not_before_self (s : Descent) : ¬ s.Before s := by
  cases s with
  | member name i => exact Nat.lt_irrefl i
  | remark w => exact id

end Descent

/-- The steps from the root of a tree to a node. -/
abbrev Route := List Descent

/-- Document order: at the first step that differs, the earlier member comes first, and a node comes
before what is below it. -/
def Route.Before : Route → Route → Prop := List.Lex Descent.Before

theorem Route.not_before_self (r : Route) : ¬ Route.Before r r := by
  intro h
  induction r with
  | nil => cases h
  | cons s r ih =>
    cases h with
    | cons h => exact ih h
    | rel h => exact s.not_before_self h

/-- A node of a tree, and how it is reached. -/
structure Visit where
  route : Route
  node : Declaration

namespace Visit

/-- The names of the namespaces on the way to a node, outermost first. -/
def scope (v : Visit) : List String := v.route.filterMap Descent.scope?

/-- The wrappers on the way to a node, outermost first. -/
def wrappers (v : Visit) : List Wrapper := v.route.filterMap Descent.wrapper?

/-- A visit, seen from one step further up. -/
def via (s : Descent) (v : Visit) : Visit := ⟨s :: v.route, v.node⟩

variable (v : Visit) (name : String) (i : Nat) (w : Wrapper)

@[simp] theorem scope_via_member : (v.via (.member name i)).scope = name :: v.scope := rfl

@[simp] theorem wrappers_via_remark : (v.via (.remark w)).wrappers = w :: v.wrappers := rfl

@[simp] theorem scope_root (d : Declaration) : (⟨[], d⟩ : Visit).scope = [] := rfl

end Visit

end Splitting

open Splitting

namespace Declaration

/-- Whether splitting looks no further than this declaration. -/
def isTerminal : Declaration → Bool
  | .annotated _ _ => false
  | d => !d.isNamespace

/-- Whether a declaration gets a file of its own: a struct, a protocol or an enum with a value
case. -/
def hasFile : Declaration → Bool
  | .struct _ _ _ _ | .protocol _ _ _ _ => true
  | .enum _ members _ _ => hasCases members
  | _ => false

/-- Whether a declaration is left out: splitting looks no further, and there is no file for it. -/
def isDropped (d : Declaration) : Bool := d.isTerminal && !d.hasFile

theorem isTerminal_of_hasFile {d : Declaration} (h : d.hasFile = true) : d.isTerminal = true := by
  cases d <;> simp_all [hasFile, isTerminal, isNamespace]

/-- A route leads from a declaration down to a node. -/
inductive Leads : Declaration → Route → Declaration → Prop where
  | here (d : Declaration) : Leads d [] d
  | member {name : String} {members : List Declaration} {conformances : List String}
      {access : Option String} {i : Nat} {m n : Declaration} {r : Route}
      (isNamespace : hasCases members = false) (at_i : members[i]? = some m) (leads : Leads m r n) :
      Leads (.enum name members conformances access) (.member name i :: r) n
  | remark {remark : Remark} {d n : Declaration} {r : Route} (leads : Leads d r n) :
      Leads (.annotated remark d) (.remark ⟨remark, d⟩ :: r) n

mutual

/-- The nodes that a splitting of the declaration comes to, in document order. -/
def visits : Declaration → List Visit
  | .enum name members conformances access =>
    ⟨[], .enum name members conformances access⟩ ::
      if hasCases members then [] else memberVisits name 0 members
  | .annotated remark d => ⟨[], .annotated remark d⟩ :: (visits d).map (.via (.remark ⟨remark, d⟩))
  | d => [⟨[], d⟩]

/-- The nodes below the members of a namespace, the first of which has the number `i`. -/
def memberVisits (name : String) (i : Nat) : List Declaration → List Visit
  | [] => []
  | m :: rest => (visits m).map (.via (.member name i)) ++ memberVisits name (i + 1) rest

end

theorem here_mem_visits (d : Declaration) : ⟨[], d⟩ ∈ d.visits := by
  cases d <;> simp [visits]

/-- The nodes below the members of a namespace are the nodes of its members. -/
theorem mem_memberVisits {name : String} {k : Nat} {members : List Declaration} {v : Visit} :
    v ∈ memberVisits name k members ↔
      ∃ i, ∃ m : Declaration, members[i]? = some m ∧
        ∃ u ∈ m.visits, u.via (.member name (k + i)) = v := by
  induction members generalizing k with
  | nil => simp [memberVisits]
  | cons first rest ih =>
    rw [memberVisits, List.mem_append, List.mem_map, ih]
    constructor
    · rintro (⟨u, hu, rfl⟩ | ⟨i, m, hi, u, hu, rfl⟩)
      · exact ⟨0, first, rfl, u, hu, rfl⟩
      · exact ⟨i + 1, m, hi, u, hu, by rw [Nat.add_right_comm, Nat.add_assoc]⟩
    · rintro ⟨i, m, hi, u, hu, rfl⟩
      cases i with
      | zero =>
        obtain rfl : first = m := by simpa using hi
        exact Or.inl ⟨u, hu, rfl⟩
      | succ i => exact Or.inr ⟨i, m, hi, u, hu, by rw [Nat.add_right_comm, Nat.add_assoc]⟩

/-- Every node that a route leads to is listed. -/
theorem mem_visits_of_leads {d n : Declaration} {r : Route} (h : Leads d r n) :
    ⟨r, n⟩ ∈ d.visits := by
  induction h with
  | here d => exact here_mem_visits d
  | member hn hi _ ih =>
    rw [visits, hn, if_neg Bool.false_ne_true]
    refine List.mem_cons_of_mem _ (mem_memberVisits.2 ⟨_, _, hi, _, ih, ?_⟩)
    rw [Nat.zero_add]
    rfl
  | remark _ ih =>
    rw [visits]
    exact List.mem_cons_of_mem _ (List.mem_map.2 ⟨_, ih, rfl⟩)

mutual

/-- Every node that is listed is led to. -/
theorem leads_of_mem_visits : ∀ (d : Declaration) {v : Visit}, v ∈ d.visits → d.Leads v.route v.node
  | .enum name members conformances access, v, h => by
    rw [visits, List.mem_cons] at h
    rcases h with rfl | h
    · exact .here _
    · cases hc : hasCases members with
      | true => simp [hc] at h
      | false =>
        rw [hc, if_neg Bool.false_ne_true] at h
        exact leads_of_mem_memberVisits name members conformances access hc members 0
          (fun i m hi => by simpa using hi) h
  | .annotated remark d, v, h => by
    rw [visits, List.mem_cons] at h
    rcases h with rfl | h
    · exact .here _
    · obtain ⟨u, hu, rfl⟩ := List.mem_map.1 h
      exact .remark (leads_of_mem_visits d hu)
  | .unspecified, _, h | .case _, _, h | .stored _, _, h | .typeAlias _ _, _, h
  | .function _ _ _, _, h | .struct _ _ _ _, _, h | .protocol _ _ _ _, _, h
  | .extension _ _ _, _, h => by
    obtain rfl := List.mem_singleton.1 h
    exact .here _

/-- The members from number `k` on are among those of their namespace. -/
theorem leads_of_mem_memberVisits (name : String) (all : List Declaration)
    (conformances : List String) (access : Option String) (hall : hasCases all = false) :
    ∀ (members : List Declaration) (k : Nat),
      (∀ i m, members[i]? = some m → all[k + i]? = some m) →
        ∀ {v : Visit}, v ∈ memberVisits name k members →
          Leads (.enum name all conformances access) v.route v.node
  | [], _, _, v, h => by simp [memberVisits] at h
  | m :: rest, k, hk, v, h => by
    rw [memberVisits, List.mem_append] at h
    rcases h with h | h
    · obtain ⟨u, hu, rfl⟩ := List.mem_map.1 h
      exact .member hall (hk 0 m rfl) (leads_of_mem_visits m hu)
    · refine leads_of_mem_memberVisits name all conformances access hall rest (k + 1)
        (fun i n hi => ?_) h
      rw [Nat.add_right_comm, Nat.add_assoc]
      exact hk (i + 1) n hi

end

/-- **The list of visits holds the nodes that routes lead to, each under its route.** -/
theorem mem_visits_iff {d : Declaration} {v : Visit} : v ∈ d.visits ↔ d.Leads v.route v.node :=
  ⟨leads_of_mem_visits d, mem_visits_of_leads⟩

mutual

/-- **Visits are in document order.** -/
theorem visits_pairwise : ∀ d : Declaration,
    d.visits.Pairwise fun u v => Route.Before u.route v.route
  | .enum name members conformances access => by
    rw [visits, List.pairwise_cons]
    cases hasCases members with
    | true => simp
    | false =>
      refine ⟨fun v hv => ?_, memberVisits_pairwise name members 0⟩
      obtain ⟨i, m, hi, u, hu, rfl⟩ := mem_memberVisits.1 hv
      exact .nil
  | .annotated remark d => by
    rw [visits, List.pairwise_cons]
    constructor
    · intro v hv
      obtain ⟨u, hu, rfl⟩ := List.mem_map.1 hv
      exact .nil
    · rw [List.pairwise_map]
      exact (visits_pairwise d).imp .cons
  | .unspecified | .case _ | .stored _ | .typeAlias _ _ | .function _ _ _ | .struct _ _ _ _
  | .protocol _ _ _ _ | .extension _ _ _ => List.pairwise_singleton _ _

theorem memberVisits_pairwise (name : String) : ∀ (members : List Declaration) (k : Nat),
    (memberVisits name k members).Pairwise fun u v => Route.Before u.route v.route
  | [], _ => .nil
  | m :: rest, k => by
    rw [memberVisits, List.pairwise_append]
    refine ⟨?_, memberVisits_pairwise name rest (k + 1), fun u hu v hv => ?_⟩
    · rw [List.pairwise_map]
      exact (visits_pairwise m).imp .cons
    · obtain ⟨u, -, rfl⟩ := List.mem_map.1 hu
      obtain ⟨i, n, -, v, -, rfl⟩ := mem_memberVisits.1 hv
      exact .rel (show k < k + 1 + i by omega)

end

/-- The nodes that a splitting does not look into, in document order. -/
def terminals (d : Declaration) : List Visit := d.visits.filter (·.node.isTerminal)

theorem mem_terminals_iff {d : Declaration} {v : Visit} :
    v ∈ d.terminals ↔ d.Leads v.route v.node ∧ v.node.isTerminal = true := by
  rw [terminals, List.mem_filter, mem_visits_iff]

theorem terminals_pairwise (d : Declaration) :
    d.terminals.Pairwise fun u v => Route.Before u.route v.route :=
  d.visits_pairwise.filter _

end Declaration

end TypeFiles
