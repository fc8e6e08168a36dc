import GraphqlRequests.Fragment
import Mathlib

/-!
# The closure of a fragment table

`closure` fails with the first root that the table lacks, and otherwise collects the least set of
keys that holds the roots and all that a collected body spreads, breadth-first.
-/

namespace GraphqlRequests.Fragment

/-- The keys hold the roots and, with each key, every key of the table that its body spreads. -/
def Closed (table : Table) (roots : List String) (keys : Set String) : Prop :=
  (∀ root ∈ roots, root ∈ keys) ∧
  ∀ e ∈ table, e.1 ∈ keys → ∀ key ∈ table.keys, spreads e.2 key = true → key ∈ keys

/-- The place of the first entry whose body spreads the key. -/
def Table.referrer (table : Table) (key : String) : Nat :=
  table.findIdx fun e => spreads e.2 key

/-- One key is found before another: by an earlier body of the result, or by the same body and
earlier in the table. -/
def FoundBefore (table result : Table) (key other : String) : Prop :=
  result.referrer key < result.referrer other ∨
  (result.referrer key = result.referrer other ∧ table.keys.idxOf key < table.keys.idxOf other)

/-- The keys that follow the roots stand behind an entry that spreads them, in the order in which
the bodies of the result find them. -/
def FoundInOrder (table result : Table) (found : List String) : Prop :=
  (∀ key ∈ found, result.referrer key < result.keys.idxOf key) ∧
  found.Pairwise (FoundBefore table result)

/-- The distinct roots come first, then all other keys breadth-first. -/
def BreadthFirst (table : Table) (roots : List String) (result : Table) : Prop :=
  ∃ found, result.keys = roots.eraseDups ++ found ∧ FoundInOrder table result found

/-! ### Look-up and places -/

@[simp] theorem Table.keys_append (first second : Table) :
    (first ++ second).keys = first.keys ++ second.keys :=
  List.map_append

theorem Table.mem_keys {table : Table} {key : String} :
    key ∈ table.keys ↔ ∃ body, (key, body) ∈ table := by
  simp [Table.keys]

theorem Table.mem_keys_of_mem {table : Table} {e : String × String} (member : e ∈ table) :
    e.1 ∈ table.keys :=
  List.mem_map_of_mem member

theorem Table.get?_eq_none {table : Table} {key : String} :
    table.get? key = none ↔ key ∉ table.keys := by
  simp [Table.get?, Table.keys, List.lookup_eq_none_iff]
  grind

theorem Table.exists_get? {table : Table} {key : String} (known : key ∈ table.keys) :
    ∃ body, table.get? key = some body := by
  rw [← Option.isSome_iff_exists, Option.isSome_iff_ne_none, ne_eq, Table.get?_eq_none]
  exact not_not_intro known

theorem Table.get?_of_mem {table : Table} (distinct : table.keys.Nodup) {key body : String}
    (member : (key, body) ∈ table) : table.get? key = some body := by
  induction table with
  | nil => simp at member
  | cons e rest ih =>
    obtain ⟨k, b⟩ := e
    simp only [Table.keys, List.map_cons, List.nodup_cons] at distinct
    simp only [Table.get?, List.lookup_cons]
    rcases List.mem_cons.mp member with same | later
    · simp_all
    · have other : (key == k) = false := by
        rw [beq_eq_false_iff_ne]
        rintro rfl
        exact distinct.1 (List.mem_map_of_mem later)
      simp only [other]
      exact ih distinct.2 later

theorem Table.mem_of_get? {table : Table} {key body : String}
    (found : table.get? key = some body) : (key, body) ∈ table := by
  induction table with
  | nil => simp [Table.get?] at found
  | cons e rest ih =>
    obtain ⟨k, b⟩ := e
    simp only [Table.get?, List.lookup_cons] at found ih
    by_cases same : key = k
    · simp_all
    · simp only [beq_eq_false_iff_ne.mpr same] at found
      exact List.mem_cons_of_mem _ (ih found)

theorem pairwise_idxOf {keys : List String} (distinct : keys.Nodup) :
    keys.Pairwise fun key other => keys.idxOf key < keys.idxOf other := by
  rw [List.pairwise_iff_getElem]
  intro i j hi hj before
  rwa [distinct.idxOf_getElem, distinct.idxOf_getElem]

theorem Table.referrer_append {table : Table} (more : Table) {key : String}
    (known : table.referrer key < table.length) :
    (table ++ more).referrer key = table.referrer key := by
  simp only [Table.referrer] at known ⊢
  rw [List.findIdx_append, if_pos known]

theorem Table.referrer_concat {table : Table} {e : String × String} {key : String}
    (unspread : ∀ d ∈ table, spreads d.2 key = false) (spread : spreads e.2 key = true) :
    (table ++ [e]).referrer key = table.length := by
  have none : table.findIdx (fun d => spreads d.2 key) = table.length :=
    List.findIdx_eq_length_of_false unspread
  simp [Table.referrer, List.findIdx_append, none, spread]

/-! ### Parts of a table -/

structure Parted (table found remaining : Table) : Prop where
  subset : ∀ e ∈ found, e ∈ table
  distinct : found.keys.Nodup
  remaining_eq : remaining = table.filter fun e => e.1 ∉ found.keys

namespace Parted

variable {table found remaining : Table}

theorem start (table : Table) : Parted table [] table :=
  ⟨by simp, by simp [Table.keys], by simp [Table.keys]⟩

theorem mem_remaining (parted : Parted table found remaining) {e : String × String} :
    e ∈ remaining ↔ e ∈ table ∧ e.1 ∉ found.keys := by
  simp [parted.remaining_eq]

theorem sublist (parted : Parted table found remaining) : remaining.Sublist table := by
  rw [parted.remaining_eq]
  exact List.filter_sublist

theorem keys_distinct (parted : Parted table found remaining) (keys : table.keys.Nodup) :
    remaining.keys.Nodup :=
  keys.sublist (parted.sublist.map _)

theorem move (parted : Parted table found remaining) (keys : table.keys.Nodup)
    (chosen : String → Bool) :
    Parted table (found ++ remaining.filter fun e => chosen e.1)
      (remaining.filter fun e => !chosen e.1) := by
  have sublist : (remaining.filter fun e => chosen e.1).Sublist table :=
    List.filter_sublist.trans parted.sublist
  refine ⟨?_, ?_, ?_⟩
  · intro e member
    exact (List.mem_append.mp member).elim (parted.subset e) fun new => sublist.subset new
  · rw [Table.keys_append, List.nodup_append]
    refine ⟨parted.distinct, keys.sublist (sublist.map _), ?_⟩
    rintro key old other new rfl
    obtain ⟨body, member⟩ := Table.mem_keys.mp new
    exact (parted.mem_remaining.mp (List.mem_of_mem_filter member)).2 old
  · have moved : ∀ e ∈ table, e.1 ∈ Table.keys (remaining.filter fun e => chosen e.1) ↔
        e.1 ∉ found.keys ∧ chosen e.1 = true := by
      intro e member
      simp only [Table.mem_keys, List.mem_filter, parted.mem_remaining]
      exact ⟨fun ⟨_, ⟨_, fresh⟩, choice⟩ => ⟨fresh, choice⟩,
        fun ⟨fresh, choice⟩ => ⟨e.2, ⟨member, fresh⟩, choice⟩⟩
    rw [Table.keys_append]
    generalize Table.keys (remaining.filter fun e => chosen e.1) = new at moved
    rw [parted.remaining_eq, List.filter_filter]
    apply List.filter_congr
    intro e member
    have whether := moved e member
    by_cases fresh : e.1 ∈ found.keys <;> by_cases choice : chosen e.1 = true <;> simp_all

end Parted

/-! ### Roots -/

theorem Table.filter_key {table : Table} (distinct : table.keys.Nodup) {key body : String}
    (member : (key, body) ∈ table) :
    (table.filter fun e => decide (e.1 = key)) = [(key, body)] := by
  induction table with
  | nil => simp at member
  | cons e rest ih =>
    obtain ⟨k, b⟩ := e
    simp only [Table.keys, List.map_cons, List.nodup_cons] at distinct
    rcases List.mem_cons.mp member with same | later
    · obtain ⟨rfl, rfl⟩ := Prod.mk.inj same
      have none : rest.filter (fun e => decide (e.1 = key)) = [] := by
        rw [List.filter_eq_nil_iff]
        rintro e inside named
        rw [decide_eq_true_eq] at named
        exact distinct.1 (named ▸ List.mem_map_of_mem inside)
      simp [none]
    · have other : k ≠ key := by
        rintro rfl
        exact distinct.1 (List.mem_map_of_mem later)
      simpa [other] using ih distinct.2 later

theorem Table.erase_eq (table : Table) (key : String) :
    table.erase key = table.filter fun e => !decide (e.1 = key) := by
  simp [Table.erase]

variable {table taken remaining : Table} {roots : List String}

theorem Parted.take (parted : Parted table taken remaining) (keys : table.keys.Nodup)
    {root body : String} (found : remaining.get? root = some body) :
    Parted table (taken ++ [(root, body)]) (remaining.erase root) := by
  have moved := parted.move keys fun key => decide (key = root)
  rwa [Table.filter_key (parted.keys_distinct keys) (Table.mem_of_get? found),
    ← Table.erase_eq] at moved

theorem Parted.get?_of_fresh (parted : Parted table taken remaining) (keys : table.keys.Nodup)
    {root : String} (fresh : root ∉ taken.keys) : remaining.get? root = table.get? root := by
  cases found : table.get? root with
  | none =>
    rw [Table.get?_eq_none] at found ⊢
    exact fun inside => found ((parted.sublist.map _).subset inside)
  | some body =>
    apply Table.get?_of_mem (parted.keys_distinct keys)
    exact parted.mem_remaining.mpr ⟨Table.mem_of_get? found, fresh⟩

theorem takeRoots_error (parted : Parted table taken remaining) (keys : table.keys.Nodup)
    {key : String} (missing : roots.find? (· ∉ table.keys) = some key) :
    takeRoots remaining taken roots = .error key := by
  induction roots generalizing taken remaining with
  | nil => simp at missing
  | cons root rest ih =>
    by_cases known : root ∈ table.keys
    · rw [List.find?_cons_of_neg (by simpa using known)] at missing
      by_cases again : root ∈ taken.keys
      · rw [takeRoots, if_pos again]
        exact ih parted missing
      · obtain ⟨body, found⟩ := Table.exists_get? known
        have here := (parted.get?_of_fresh keys again).trans found
        rw [takeRoots, if_neg again, here]
        exact ih (parted.take keys here) missing
    · rw [List.find?_cons_of_pos (by simpa using known)] at missing
      obtain rfl := Option.some.inj missing
      have fresh : root ∉ taken.keys := fun again =>
        known ((List.map_subset _ parted.subset) again)
      have here := (parted.get?_of_fresh keys fresh).trans (Table.get?_eq_none.mpr known)
      rw [takeRoots, if_neg fresh, here]

theorem takeRoots_ok (parted : Parted table taken remaining) (keys : table.keys.Nodup)
    (known : ∀ root ∈ roots, root ∈ table.keys) :
    ∃ found left, takeRoots remaining taken roots = .ok (found, left) ∧ Parted table found left ∧
      found.keys = taken.keys ++ (roots.filter (· ∉ taken.keys)).eraseDups := by
  induction roots generalizing taken remaining with
  | nil => exact ⟨taken, remaining, rfl, parted, by simp⟩
  | cons root rest ih =>
    have later : ∀ root ∈ rest, root ∈ table.keys := fun r member =>
      known r (List.mem_cons_of_mem _ member)
    by_cases again : root ∈ taken.keys
    · obtain ⟨found, left, result, parted, order⟩ := ih parted later
      refine ⟨found, left, ?_, parted, ?_⟩
      · rwa [takeRoots, if_pos again]
      · rwa [List.filter_cons_of_neg (by simpa using again)]
    · obtain ⟨body, found⟩ := Table.exists_get? (known root List.mem_cons_self)
      have here := (parted.get?_of_fresh keys again).trans found
      obtain ⟨found, left, result, parted, order⟩ := ih (parted.take keys here) later
      refine ⟨found, left, ?_, parted, ?_⟩
      · rwa [takeRoots, if_neg again, here]
      · have rest_eq : rest.filter (· ∉ (taken ++ [(root, body)]).keys) =
            (rest.filter (· ∉ taken.keys)).filter fun r => !r == root := by
          rw [List.filter_filter]
          apply List.filter_congr
          intro r _
          have longer : r ∈ (taken ++ [(root, body)]).keys ↔ r ∈ taken.keys ∨ r = root := by
            simp [Table.keys]
          by_cases same : r = root <;> simp only [longer] <;> simp [same]
        rw [order, rest_eq, List.filter_cons_of_pos (by simpa using again), List.eraseDups_cons]
        simp [Table.keys]

/-! ### Expansion -/

/-- The state of the expansion: the entries whose bodies were searched, those that wait for it, and
what remains of the table. No searched body spreads a key that remains, everything collected is
needed, and it was found in order. -/
structure Expanding (table : Table) (roots : List String) (done pending remaining : Table) :
    Prop where
  parted : Parted table (done ++ pending) remaining
  unspread : ∀ e ∈ remaining, ∀ d ∈ done, spreads d.2 e.1 = false
  needed : ∀ keys, Closed table roots keys → ∀ e ∈ done ++ pending, e.1 ∈ keys
  ordered : ∃ found, (done ++ pending).keys = roots.eraseDups ++ found ∧
    (∀ key ∈ found, done.referrer key < done.length ∧
      done.referrer key < (done ++ pending).keys.idxOf key) ∧
    found.Pairwise (FoundBefore table done)

theorem FoundBefore.append {done : Table} (more : Table) {key other : String}
    (before : FoundBefore table done key other) (first : done.referrer key < done.length)
    (second : done.referrer other < done.length) : FoundBefore table (done ++ more) key other := by
  simpa only [FoundBefore, Table.referrer_append more first, Table.referrer_append more second]
    using before

namespace Expanding

variable {done pending : Table} {e : String × String}

theorem referrer_new (expanding : Expanding table roots done pending remaining) {key : String}
    (new : key ∈ (remaining.spreadBy e.2).keys) : (done ++ [e]).referrer key = done.length := by
  obtain ⟨body, member⟩ := Table.mem_keys.mp new
  obtain ⟨inside, spread⟩ := List.mem_filter.mp member
  exact Table.referrer_concat (expanding.unspread (key, body) inside) spread

theorem pairwise_new (expanding : Expanding table roots done pending remaining)
    (keys : table.keys.Nodup) :
    (remaining.spreadBy e.2).keys.Pairwise (FoundBefore table (done ++ [e])) := by
  have sublist : (remaining.spreadBy e.2).keys.Sublist table.keys :=
    (List.filter_sublist.trans expanding.parted.sublist).map _
  refine ((pairwise_idxOf keys).sublist sublist).imp_of_mem ?_
  intro key other first second before
  exact Or.inr ⟨by rw [expanding.referrer_new first, expanding.referrer_new second], before⟩

theorem parted_step (expanding : Expanding table roots done (e :: pending) remaining)
    (keys : table.keys.Nodup) :
    Parted table ((done ++ [e]) ++ (pending ++ remaining.spreadBy e.2))
      (remaining.notSpreadBy e.2) := by
  simpa [Table.spreadBy, Table.notSpreadBy] using expanding.parted.move keys (spreads e.2)

theorem ordered_step (expanding : Expanding table roots done (e :: pending) remaining)
    (keys : table.keys.Nodup) :
    ∃ found, ((done ++ [e]) ++ (pending ++ remaining.spreadBy e.2)).keys =
        roots.eraseDups ++ found ∧
      (∀ key ∈ found, (done ++ [e]).referrer key < (done ++ [e]).length ∧
        (done ++ [e]).referrer key <
          ((done ++ [e]) ++ (pending ++ remaining.spreadBy e.2)).keys.idxOf key) ∧
      found.Pairwise (FoundBefore table (done ++ [e])) := by
  obtain ⟨found, split, placed, sorted⟩ := expanding.ordered
  have longer : ((done ++ [e]) ++ (pending ++ remaining.spreadBy e.2)).keys =
      (done ++ e :: pending).keys ++ (remaining.spreadBy e.2).keys := by simp [Table.keys]
  have distinct := (expanding.parted_step keys).distinct
  rw [longer] at distinct ⊢
  refine ⟨found ++ (remaining.spreadBy e.2).keys, by rw [split, List.append_assoc], ?_, ?_⟩
  · intro key member
    rcases List.mem_append.mp member with old | new
    · obtain ⟨known, before⟩ := placed key old
      have inside : key ∈ (done ++ e :: pending).keys := by simp [split, old]
      rw [Table.referrer_append [e] known, List.idxOf_append, if_pos inside]
      exact ⟨by simp; omega, before⟩
    · have fresh : key ∉ (done ++ e :: pending).keys := fun old =>
        (List.nodup_append.mp distinct).2.2 key old key new rfl
      rw [expanding.referrer_new new, List.idxOf_append, if_neg fresh]
      exact ⟨by simp, by simp [Table.keys]; omega⟩
  · rw [List.pairwise_append]
    refine ⟨?_, expanding.pairwise_new keys, ?_⟩
    · exact sorted.imp_of_mem fun first second before =>
        before.append [e] (placed _ first).1 (placed _ second).1
    · intro key old other new
      left
      rw [expanding.referrer_new new, Table.referrer_append [e] (placed key old).1]
      exact (placed key old).1

theorem step (expanding : Expanding table roots done (e :: pending) remaining)
    (keys : table.keys.Nodup) :
    Expanding table roots (done ++ [e]) (pending ++ remaining.spreadBy e.2)
      (remaining.notSpreadBy e.2) where
  parted := expanding.parted_step keys
  unspread := by
    intro left member d searched
    obtain ⟨inside, kept⟩ := List.mem_filter.mp member
    rcases List.mem_append.mp searched with old | new
    · exact expanding.unspread left inside d old
    · obtain rfl := List.mem_singleton.mp new
      simpa using kept
  needed := by
    intro set closed entry member
    have old := expanding.needed set closed
    have split : entry ∈ done ++ e :: pending ∨ entry ∈ remaining.spreadBy e.2 := by
      simpa [or_assoc] using member
    rcases split with collected | new
    · exact old entry collected
    · obtain ⟨inside, spread⟩ := List.mem_filter.mp new
      have here : e ∈ done ++ e :: pending := by simp
      exact closed.2 e (expanding.parted.subset e here) (old e here) entry.1
        (Table.mem_keys_of_mem (expanding.parted.mem_remaining.mp inside).1) spread
  ordered := expanding.ordered_step keys

/-- The expansion keeps its state until no body waits to be searched. -/
theorem run {collected : Table} {queue : List String}
    (expanding : Expanding table roots done pending remaining) (keys : table.keys.Nodup)
    (found : collected = done ++ pending) (bodies : queue = pending.map Prod.snd) :
    ∃ left, Expanding table roots (expand remaining collected queue) [] left := by
  induction remaining, collected, queue using expand.induct generalizing done pending with
  | case1 remaining collected =>
    obtain rfl := List.map_eq_nil_iff.mp bodies.symm
    rw [expand, found, List.append_nil]
    exact ⟨remaining, expanding⟩
  | case2 remaining collected body queue ih =>
    obtain ⟨e, rest, rfl, rfl, waiting⟩ := List.map_eq_cons_iff.mp bodies.symm
    rw [expand]
    apply ih (expanding.step keys)
    · simp [found]
    · simp [waiting]

theorem start (parted : Parted table taken remaining) (order : taken.keys = roots.eraseDups) :
    Expanding table roots [] taken remaining where
  parted := parted
  unspread := by simp
  needed := by
    intro keys closed e member
    apply closed.1
    rw [← List.mem_eraseDups, ← order]
    exact Table.mem_keys_of_mem member
  ordered := ⟨[], by simp [order], by simp, List.Pairwise.nil⟩

variable {result left : Table}

theorem closed (expanding : Expanding table roots result [] left) (keys : table.keys.Nodup) :
    Closed table roots {key | key ∈ result.keys} := by
  have parted := expanding.parted
  rw [List.append_nil] at parted
  constructor
  · intro root member
    obtain ⟨found, split, -⟩ := expanding.ordered
    rw [List.append_nil] at split
    rw [Set.mem_ofPred_eq, split]
    exact List.mem_append_left _ (List.mem_eraseDups.mpr member)
  · intro e inside collected key known spread
    obtain ⟨body, member⟩ := Table.mem_keys.mp collected
    have same : body = e.2 := Option.some.inj
      ((Table.get?_of_mem keys (parted.subset _ member)).symm.trans (Table.get?_of_mem keys inside))
    subst same
    by_contra missed
    obtain ⟨other, entry⟩ := Table.mem_keys.mp known
    have unspread := expanding.unspread _ (parted.mem_remaining.mpr ⟨entry, missed⟩) _ member
    simp only [unspread, Bool.false_eq_true] at spread

theorem isLeast (expanding : Expanding table roots result [] left) (keys : table.keys.Nodup) :
    IsLeast {keys | Closed table roots keys} {key | key ∈ result.keys} := by
  refine ⟨expanding.closed keys, ?_⟩
  intro set closed key member
  obtain ⟨body, entry⟩ := Table.mem_keys.mp member
  exact expanding.needed set closed _ (by simpa using entry)

theorem breadthFirst (expanding : Expanding table roots result [] left) :
    BreadthFirst table roots result := by
  obtain ⟨found, split, placed, sorted⟩ := expanding.ordered
  rw [List.append_nil] at split placed
  exact ⟨found, split, fun key member => (placed key member).2, sorted⟩

end Expanding

theorem closure_ok (keys : table.keys.Nodup) (known : ∀ root ∈ roots, root ∈ table.keys) :
    ∃ result left, closure table roots = .ok result ∧ Expanding table roots result [] left := by
  obtain ⟨taken, remaining, taking, parted, order⟩ := takeRoots_ok (Parted.start table) keys known
  have start : Expanding table roots [] taken remaining :=
    Expanding.start parted (by simpa [Table.keys] using order)
  obtain ⟨left, expanded⟩ := start.run keys rfl rfl
  refine ⟨_, left, ?_, expanded⟩
  rw [closure, taking]
  rfl

theorem closure_error (keys : table.keys.Nodup) {key : String}
    (missing : roots.find? (· ∉ table.keys) = some key) : closure table roots = .error key := by
  rw [closure, takeRoots_error (Parted.start table) keys missing]
  rfl

/-- The closure fails with the first root that the table lacks. Where it lacks none, the keys of the
closure are the least set that is closed, each once and with its body, in breadth-first order. -/
theorem closure_least_breadthFirst (table : Table) (roots : List String)
    (distinct : table.keys.Nodup) :
    (∀ key, closure table roots = .error key ↔ roots.find? (· ∉ table.keys) = some key) ∧
    ((∀ root ∈ roots, root ∈ table.keys) → ∃ result, closure table roots = .ok result ∧
      IsLeast {keys | Closed table roots keys} {key | key ∈ result.keys} ∧
      result.keys.Nodup ∧ (∀ e ∈ result, table.get? e.1 = some e.2) ∧
      BreadthFirst table roots result) := by
  constructor
  · intro key
    refine ⟨fun failed => ?_, closure_error distinct⟩
    cases missing : roots.find? (· ∉ table.keys) with
    | some other =>
      rw [closure_error distinct missing] at failed
      exact congrArg some (Except.error.inj failed)
    | none =>
      have known : ∀ root ∈ roots, root ∈ table.keys := by simpa using missing
      obtain ⟨result, _, collected, _⟩ := closure_ok distinct known
      rw [collected] at failed
      cases failed
  · intro known
    obtain ⟨result, left, collected, expanded⟩ := closure_ok distinct known
    have parted := expanded.parted
    rw [List.append_nil] at parted
    exact ⟨result, collected, expanded.isLeast distinct, parted.distinct,
      fun e member => Table.get?_of_mem distinct (parted.subset e member), expanded.breadthFirst⟩

theorem closure_least_breadthFirst_of_cycle :
    let table : Table := [("Z", "...Hero"), ("HeroV2", "name"), ("Hero", "...HeroV2 ...Ship"),
      ("Ship", "...Hero ...Z")]
    let roots := ["Hero", "Hero"]
    table.keys.Nodup ∧ (∀ root ∈ roots, root ∈ table.keys) ∧
    ∃ result, closure table roots = .ok result ∧ result.keys = ["Hero", "HeroV2", "Ship", "Z"] ∧
      IsLeast {keys | Closed table roots keys} {key | key ∈ result.keys} ∧
      BreadthFirst table roots result := by
  intro table roots
  have distinct : table.keys.Nodup := by decide
  have known : ∀ root ∈ roots, root ∈ table.keys := by decide
  have value : closure table roots = .ok [("Hero", "...HeroV2 ...Ship"), ("HeroV2", "name"),
      ("Ship", "...Hero ...Z"), ("Z", "...Hero")] := by cbv
  obtain ⟨result, collected, least, -, -, order⟩ :=
    (closure_least_breadthFirst table roots distinct).2 known
  have same := Except.ok.inj (value.symm.trans collected)
  refine ⟨distinct, known, result, collected, ?_, least, order⟩
  rw [← same]
  rfl

end GraphqlRequests.Fragment
