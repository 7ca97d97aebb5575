import Mathlib.Algebra.GroupWithZero.Nat
import Mathlib.Data.List.Induction
import MixedTraffic.Network.Filing

namespace MixedTraffic

/-! Each row of a filing has the links of its node, in the order of their keys. -/

namespace Filing

variable {nodes filed : List NodeId} {nodeCount node other : Nat}

def under (nodes : List NodeId) (node : Nat) : List LinkId :=
  (nodes.zipIdx.filter fun entry => entry.1.index = node).map fun entry => ⟨entry.2⟩

def count (nodes : List NodeId) (node : Nat) : Nat := nodes.countP (·.index = node)

def before (nodes : List NodeId) (node : Nat) : Nat := nodes.countP (·.index < node)

theorem under_concat (nodes : List NodeId) (last : NodeId) (node : Nat) :
    under (nodes ++ [last]) node =
      under nodes node ++ if last.index = node then [⟨nodes.length⟩] else [] := by
  rw [under, List.zipIdx_append, List.filter_append, List.map_append, List.zipIdx_singleton,
    Nat.zero_add]
  split
  next own => simp [under, own]
  next other => simp [under, other]

theorem count_concat (nodes : List NodeId) (last : NodeId) (node : Nat) :
    count (nodes ++ [last]) node = count nodes node + if last.index = node then 1 else 0 := by
  simp [count, List.countP_append, List.countP_singleton]

theorem length_under (nodes : List NodeId) (node : Nat) :
    (under nodes node).length = count nodes node := by
  induction nodes using List.reverseRecOn with
  | nil => rfl
  | append_singleton nodes last ih =>
      rw [under_concat, count_concat, List.length_append, ih]
      split <;> rfl

theorem before_succ (nodes : List NodeId) (node : Nat) :
    before nodes (node + 1) = before nodes node + count nodes node := by
  induction nodes with
  | nil => rfl
  | cons first rest ih =>
      simp only [before, count, List.countP_cons, decide_eq_true_eq] at ih ⊢
      rw [ih]
      split <;> split <;> split <;> omega

theorem before_le_before (nodes : List NodeId) (earlier : node ≤ other) :
    before nodes node ≤ before nodes other := by
  apply List.countP_mono_left
  intro first _ below
  rw [decide_eq_true_iff] at below ⊢
  omega

theorem place_ne {i j : Nat} (apart : node ≠ other) (within : i < count nodes node)
    (within' : j < count nodes other) : before nodes node + i ≠ before nodes other + j := by
  have next := before_succ nodes node
  have next' := before_succ nodes other
  rcases Nat.lt_or_gt_of_ne apart with below | above
  · have later := before_le_before nodes (Nat.add_one_le_of_lt below)
    omega
  · have later := before_le_before nodes (Nat.add_one_le_of_lt above)
    omega

theorem tally_getElem? (nodeCount : Nat) (nodes : List NodeId) (node : Nat) :
    (tally nodeCount nodes)[node]? =
      if node < nodeCount then some (count nodes node) else none := by
  induction nodes using List.reverseRecOn with
  | nil => simp [tally, count, Array.getElem?_replicate]
  | append_singleton nodes last ih =>
      rw [tally, List.foldl_append, List.foldl_cons, List.foldl_nil, ← tally,
        Array.getElem?_modify, ih, count_concat]
      by_cases exists' : node < nodeCount <;> by_cases own : last.index = node <;>
        simp [exists', own]

theorem size_tally (nodeCount : Nat) (nodes : List NodeId) :
    (tally nodeCount nodes).size = nodeCount := by
  induction nodes using List.reverseRecOn with
  | nil => exact Array.size_replicate
  | append_singleton nodes last ih =>
      rw [tally, List.foldl_append, List.foldl_cons, List.foldl_nil, ← tally, Array.size_modify, ih]

theorem starting_getElem? (first : Nat) (counts : List Nat) (node : Nat) :
    (starting first counts)[node]? =
      if node ≤ counts.length then some (first + (counts.take node).sum) else none := by
  induction counts generalizing first node with
  | nil => cases node <;> simp [starting]
  | cons count counts ih =>
      cases node with
      | zero => simp [starting]
      | succ node => simp [starting, ih, Nat.add_assoc]

theorem length_starting (first : Nat) (counts : List Nat) :
    (starting first counts).length = counts.length + 1 := by
  induction counts generalizing first with
  | nil => rfl
  | cons count counts ih => rw [starting, List.length_cons, ih, List.length_cons]

theorem size_starts (nodeCount : Nat) (nodes : List NodeId) :
    (ofNodes nodeCount nodes).starts.size = nodeCount + 1 := by
  rw [ofNodes, List.size_toArray, length_starting, Array.length_toList, size_tally]

theorem starts_getElem? (nodeCount : Nat) (nodes : List NodeId) (node : Nat) :
    (ofNodes nodeCount nodes).starts[node]? =
      if node ≤ nodeCount then some (before nodes node) else none := by
  have sums (node : Nat) (within : node ≤ nodeCount) :
      ((tally nodeCount nodes).toList.take node).sum = before nodes node := by
    induction node with
    | zero => simp [before]
    | succ node ih =>
        have counted := tally_getElem? nodeCount nodes node
        rw [if_pos (Nat.lt_of_succ_le within), ← Array.getElem?_toList] at counted
        rw [List.take_add_one, counted, List.sum_append, ih (Nat.le_of_lt within), before_succ]
        rfl
  rw [ofNodes, List.getElem?_toArray, starting_getElem?, Array.length_toList, size_tally]
  split
  next within => rw [Nat.zero_add, sums node within]
  next => rfl

/-- What holds when the links of some nodes have been filed, of those of all `nodes`. -/
structure Filed (nodeCount : Nat) (nodes filed : List NodeId)
    (state : Array Nat × Array LinkId) : Prop where
  free : ∀ node, state.1[node]? =
    if node < nodeCount then some (before nodes node + count filed node) else none
  size : state.2.size = nodes.length
  links : ∀ node < nodeCount, ∀ i < count filed node,
    state.2[before nodes node + i]? = (under filed node)[i]?

namespace Filed

variable {state : Array Nat × Array LinkId} {last : NodeId} {rest : List NodeId}

theorem pass (sofar : Filed nodeCount nodes filed state) (missing : ¬last.index < nodeCount) :
    Filed nodeCount nodes (filed ++ [last]) state := by
  have foreign {node : Nat} (inside : node < nodeCount) : last.index ≠ node := by
    intro same
    exact missing (same ▸ inside)
  constructor
  · intro node
    rw [sofar.free]
    split
    next inside => rw [count_concat, if_neg (foreign inside), Nat.add_zero]
    next => rfl
  · exact sofar.size
  · intro node inside i within
    rw [count_concat, if_neg (foreign inside), Nat.add_zero] at within
    rw [under_concat, if_neg (foreign inside), List.append_nil]
    exact sofar.links node inside i within

theorem put (sofar : Filed nodeCount nodes filed state)
    (all : nodes = filed ++ last :: rest) (known : last.index < nodeCount) :
    Filed nodeCount nodes (filed ++ [last])
      (state.1.modify last.index (· + 1),
        state.2.setIfInBounds (before nodes last.index + count filed last.index)
          ⟨filed.length⟩) := by
  have most (node : Nat) : count (filed ++ [last]) node ≤ count nodes node := by
    rw [all, List.append_cons filed last rest]
    exact (List.sublist_append_left ..).countP_le
  have room := most last.index
  rw [count_concat, if_pos rfl] at room
  constructor
  · intro node
    rw [Array.getElem?_modify, sofar.free, count_concat]
    by_cases own : last.index = node
    · subst own
      simp [known, Nat.add_assoc]
    · simp [own]
  · rw [Array.size_setIfInBounds, sofar.size]
  · intro node inside i within
    rw [count_concat] at within
    rw [under_concat]
    by_cases own : last.index = node
    · subst own
      have fits : before nodes last.index + count filed last.index < state.2.size := by
        have next := before_succ nodes last.index
        have total : before nodes (last.index + 1) ≤ nodes.length := List.countP_le_length
        rw [sofar.size]
        omega
      rw [if_pos rfl] at within
      rw [if_pos rfl, List.getElem?_append, length_under]
      split
      next earlier =>
        rw [Array.getElem?_setIfInBounds_ne (by omega)]
        exact sofar.links _ inside i earlier
      next now =>
        have newest : i = count filed last.index := by omega
        rw [newest, Array.getElem?_setIfInBounds_self_of_lt fits, Nat.sub_self]
        rfl
    · -- The rows of other nodes have their places elsewhere.
      rw [if_neg own, Nat.add_zero] at within
      have enough := most node
      rw [count_concat, if_neg own, Nat.add_zero] at enough
      have apart := place_ne own room (Nat.lt_of_lt_of_le within enough)
      rw [if_neg own, List.append_nil, Array.getElem?_setIfInBounds_ne apart]
      exact sofar.links node inside i within

theorem file (sofar : Filed nodeCount nodes filed state) (all : nodes = filed ++ last :: rest) :
    Filed nodeCount nodes (filed ++ [last])
      (Filing.file state.1 state.2 last ⟨filed.length⟩) := by
  have place := sofar.free last.index
  by_cases known : last.index < nodeCount
  · rw [if_pos known] at place
    simp only [Filing.file, place]
    exact sofar.put all known
  · rw [if_neg known] at place
    simp only [Filing.file, place]
    exact sofar.pass known

end Filed

theorem filed_of_append {rest : List NodeId} (all : nodes = filed ++ rest) :
    Filed nodeCount nodes filed (filed.zipIdx.foldl
      (fun (free, links) (node, position) => file free links node ⟨position⟩)
      ((ofNodes nodeCount nodes).starts.pop, Array.replicate nodes.length Key.vacant)) := by
  induction filed using List.reverseRecOn generalizing rest with
  | nil =>
      constructor
      · intro node
        rw [List.zipIdx_nil, List.foldl_nil, Array.getElem?_pop, size_starts, Nat.add_sub_cancel,
          starts_getElem?]
        by_cases inside : node < nodeCount
        · rw [if_pos inside, if_pos inside, if_pos (Nat.le_of_lt inside)]
          rfl
        · rw [if_neg inside, if_neg inside]
      · exact Array.size_replicate
      · intro node _ i within
        cases within
  | append_singleton filed last ih =>
      rw [List.append_assoc] at all
      rw [List.zipIdx_append, List.foldl_append, List.zipIdx_singleton, List.foldl_cons,
        List.foldl_nil, Nat.zero_add]
      exact (ih all).file all

theorem row_ofNodes (inside : node < nodeCount) :
    (ofNodes nodeCount nodes).row node = under nodes node := by
  have filed := @filed_of_append nodes nodes nodeCount [] (List.append_nil nodes).symm
  have next := before_succ nodes node
  have total : before nodes (node + 1) ≤ nodes.length := List.countP_le_length
  have start : (ofNodes nodeCount nodes).starts.getD node 0 = before nodes node := by
    rw [Array.getD_eq_getD_getElem?, starts_getElem?, if_pos (Nat.le_of_lt inside),
      Option.getD_some]
  have stop : (ofNodes nodeCount nodes).starts.getD (node + 1) 0 = before nodes (node + 1) := by
    rw [Array.getD_eq_getD_getElem?, starts_getElem?,
      if_pos (Nat.succ_le_of_lt inside), Option.getD_some]
  rw [row, start, stop]
  apply List.ext_getElem?
  intro i
  have links : (ofNodes nodeCount nodes).links.size = nodes.length := filed.size
  rw [Array.getElem?_toList, Array.getElem?_extract, links, Nat.min_eq_left total, next,
    Nat.add_sub_cancel_left]
  split
  next within => exact filed.links node inside i within
  next beyond =>
    rw [← length_under, Nat.not_lt] at beyond
    exact (List.getElem?_eq_none beyond).symm

end Filing

end MixedTraffic
