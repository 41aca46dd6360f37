import CanStream.Socket.Basic

/-!
# What a journal tells of the buffers

The buffers of a socket are emptied whenever it connects and whenever it is closed. What went into
them and came out of them since is told from the entries behind the last one of that sort.
-/

namespace CanStream

variable {P : Protocol} {α : Type}

/-- The bytes that arrived, unless it was a failure. -/
def Arrival.bytes? : Arrival → Option (List UInt8)
  | datagram bytes => some bytes
  | failure _ => none

/-- The datagrams among some arrivals. -/
def datagrams (arrivals : List Arrival) : List (List UInt8) := arrivals.filterMap Arrival.bytes?

theorem mem_datagrams {arrivals : List Arrival} {bytes : List UInt8} :
    bytes ∈ datagrams arrivals ↔ .datagram bytes ∈ arrivals := by
  rw [datagrams, List.mem_filterMap]
  constructor
  · rintro ⟨_ | _, member, same⟩
    · obtain rfl := Option.some.inj same
      exact member
    · cases same
  · intro member
    exact ⟨_, member, rfl⟩

/-- What reads of at most `n` bytes each give for some arrivals: every datagram, cut to `n` bytes,
unless nothing is left of it. -/
def gathered (n : Nat) (arrivals : List Arrival) : List (List UInt8) :=
  ((datagrams arrivals).map (·.take n)).filter (!·.isEmpty)

section

variable {n : Nat} {arrivals : List Arrival}

@[simp] theorem gathered_nil : gathered n [] = [] := rfl

@[simp] theorem gathered_failure (code : Int) :
    gathered n (.failure code :: arrivals) = gathered n arrivals :=
  rfl

@[simp] theorem gathered_empty : gathered n (.datagram [] :: arrivals) = gathered n arrivals := by
  simp [gathered, datagrams, Arrival.bytes?]

theorem gathered_datagram {bytes : List UInt8} (nonempty : bytes.take n ≠ []) :
    gathered n (.datagram bytes :: arrivals) = bytes.take n :: gathered n arrivals := by
  have kept : (bytes.take n).isEmpty = false := by simpa using nonempty
  simp [gathered, datagrams, Arrival.bytes?, kept]

/-- Nothing empty is gathered. -/
theorem ne_nil_of_mem_gathered {d : List UInt8} (member : d ∈ gathered n arrivals) : d ≠ [] := by
  obtain ⟨-, nonempty⟩ := List.mem_filter.mp member
  rintro rfl
  cases nonempty

theorem gathered_append (more : List Arrival) :
    gathered n (arrivals ++ more) = gathered n arrivals ++ gathered n more := by
  simp [gathered, datagrams]

end

namespace Entry

/-- The interface that the socket is asked to connect to and the mode, or none if it is closed; the
other entries leave it at the last one. -/
def target (last : Option (String × OpenMode)) : Entry P → Option (String × OpenMode)
  | cleared ifname mode => some (ifname, mode)
  | discarded => none
  | _ => last

/-- Whether the buffers were emptied. -/
def clears : Entry P → Bool
  | cleared _ _ => true
  | discarded => true
  | _ => false

/-- The datagrams that the protocol took to read. -/
def datagramsRead : Entry P → List (List UInt8)
  | readHook _ consumed _ => datagrams consumed
  | _ => []

/-- The frame that was taken out of the read buffer. -/
def framesTaken : Entry P → List Frame
  | frameTaken f => [f]
  | _ => []

/-- What the protocol gave to the endpoint to write. -/
def writesTried : Entry P → List (List UInt8)
  | writeHook _ _ tried _ _ => tried
  | _ => []

/-- The writes of the protocol that took some bytes. -/
def writesTaken : Entry P → List (List UInt8)
  | writeHook _ _ _ sent _ => sent.filter fun bytes => !bytes.isEmpty
  | _ => []

/-- The frame that was queued to be written. -/
def framesQueued : Entry P → List Frame
  | frameQueued f => [f]
  | _ => []

end Entry

/-- What the entries tell that were made since the buffers were emptied last. -/
def told (tells : Entry P → List α) (journal : List (Entry P)) : List α :=
  journal.foldl (fun sofar entry => if entry.clears then [] else sofar ++ tells entry) []

section

variable {tells : Entry P → List α} {j : List (Entry P)} {entry : Entry P}

@[simp] theorem told_nil : told tells ([] : List (Entry P)) = [] := rfl

theorem told_append_clear (clears : entry.clears = true) : told tells (j ++ [entry]) = [] := by
  simp [told, clears]

theorem told_append (keeps : entry.clears = false) :
    told tells (j ++ [entry]) = told tells j ++ tells entry := by
  simp [told, keeps]

/-- An entry that tells nothing. -/
theorem told_append_silent (keeps : entry.clears = false) (silent : tells entry = []) :
    told tells (j ++ [entry]) = told tells j := by
  rw [told_append keeps, silent, List.append_nil]

end

/-- The interface that the socket was asked to connect to last and the mode, unless it was closed
since. -/
def target (journal : List (Entry P)) : Option (String × OpenMode) :=
  journal.foldl Entry.target none

theorem target_append (j : List (Entry P)) (entry : Entry P) :
    target (j ++ [entry]) = entry.target (target j) := by
  rw [target, List.foldl_append]
  rfl

/-- A socket that was closed is not asked to connect to anything until the next connect. -/
theorem target_append_discarded {j since : List (Entry P)}
    (closed : ∀ ifname mode, .cleared ifname mode ∉ since) :
    target (j ++ .discarded :: since) = none := by
  rw [target, List.foldl_append, List.foldl_cons]
  change since.foldl Entry.target none = none
  induction since with
  | nil => rfl
  | cons entry rest ih =>
    have other : entry.target none = none := by
      cases entry with
      | cleared ifname mode => exact absurd (List.mem_cons_self ..) (closed ifname mode)
      | _ => rfl
    rw [List.foldl_cons, other]
    exact ih fun ifname mode member => closed ifname mode (List.mem_cons_of_mem _ member)

/-- The moment of an element, told from its index. -/
theorem eq_take_append_cons {l : List α} {a : α} {k : Nat} (found : l[k]? = some a) :
    l = l.take k ++ a :: l.drop (k + 1) := by
  obtain ⟨bound, rfl⟩ := List.getElem?_eq_some_iff.mp found
  rw [List.getElem_cons_drop, List.take_append_drop]

/-- The moment of an element that tells something, told from its index. -/
theorem exists_moment {β : Type} {tells : α → Option β} {l : List α} {k : Nat} {b : β}
    (found : (l[k]?).bind tells = some b) :
    ∃ a, tells a = some b ∧ l = l.take k ++ a :: l.drop (k + 1) := by
  obtain ⟨a, here, told⟩ := Option.bind_eq_some_iff.mp found
  exact ⟨a, told, eq_take_append_cons here⟩

/-- What is so at every moment of a list, of what is before it, there and behind it, is so at every
index. -/
theorem forall_moment_iff {moment : List α → α → List α → Prop} {l : List α} :
    (∀ before a after, l = before ++ a :: after → moment before a after) ↔
      ∀ n (h : n < l.length), moment (l.take n) l[n] (l.drop (n + 1)) := by
  constructor
  · intro always n h
    refine always _ _ _ ?_
    rw [List.getElem_cons_drop, List.take_append_drop]
  · rintro always before a after rfl
    have here := always before.length (by simp)
    simpa using here

/-- A moment of a longer list is its last one, or one of the list. -/
theorem moment_of_append {l before after : List α} {last a : α}
    (split : l ++ [last] = before ++ a :: after) :
    after = [] ∧ l = before ∧ last = a ∨
      ∃ earlier, after = earlier ++ [last] ∧ l = before ++ a :: earlier := by
  rcases List.eq_nil_or_concat after with rfl | ⟨earlier, last', rfl⟩
  · obtain ⟨same, isLast⟩ := List.append_inj' split rfl
    exact .inl ⟨rfl, same, List.singleton_inj.mp isLast⟩
  · rw [List.concat_eq_append, ← List.cons_append, ← List.append_assoc] at split
    obtain ⟨same, isLast⟩ := List.append_inj' split rfl
    rw [List.singleton_inj.mp isLast, List.concat_eq_append]
    exact .inr ⟨earlier, rfl, same⟩

instance decidableForallMoment {moment : List α → α → List α → Prop}
    [∀ before a after, Decidable (moment before a after)] (l : List α) :
    Decidable (∀ before a after, l = before ++ a :: after → moment before a after) :=
  decidable_of_iff _ forall_moment_iff.symm

/-- Every entry of a journal is as the law says, given the entries before it. -/
def Lawful (law : List (Entry P) → Entry P → Prop) (journal : List (Entry P)) : Prop :=
  ∀ before entry after, journal = before ++ entry :: after → law before entry

section

variable {law : List (Entry P) → Entry P → Prop} {j : List (Entry P)} {entry : Entry P}

theorem lawful_nil : Lawful law [] := by
  intro before entry after split
  simp at split

theorem Lawful.of_append {more : List (Entry P)} (h : Lawful law (j ++ more)) : Lawful law j := by
  rintro before entry' after rfl
  exact h before entry' (after ++ more) (by rw [List.append_assoc, List.cons_append])

theorem Lawful.append (h : Lawful law j) (here : law j entry) : Lawful law (j ++ [entry]) := by
  intro before entry' after split
  rcases moment_of_append split with ⟨-, rfl, rfl⟩ | ⟨earlier, -, split'⟩
  · exact here
  · exact h before entry' earlier split'

end

/-- The datagrams read since the buffers were emptied last. -/
def datagramsRead (journal : List (Entry P)) : List (List UInt8) :=
  told Entry.datagramsRead journal

/-- The frames taken out of the read buffer since it was emptied last. -/
def framesTaken (journal : List (Entry P)) : List Frame := told Entry.framesTaken journal

/-- What was given to the endpoint to write since the write buffer was emptied last. -/
def writesTried (journal : List (Entry P)) : List (List UInt8) := told Entry.writesTried journal

/-- The writes that took some bytes since the write buffer was emptied last. -/
def writesTaken (journal : List (Entry P)) : List (List UInt8) := told Entry.writesTaken journal

/-- The frames queued since the write buffer was emptied last. -/
def framesQueued (journal : List (Entry P)) : List Frame := told Entry.framesQueued journal

end CanStream
