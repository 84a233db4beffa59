import Mathlib.Data.List.Infix
import ChipEight.Proofs.Unpacking

namespace ChipEight

/-! What may be relied on of a reader of unpacked data: they come in order, and whoever
meets their end knows that they are whole and have the recorded checksum. Whether
`ByteReader.take` meets the end depends on how much it is told to take. The entries of
an archive are read by such readers. -/

namespace ByteReader

variable {State : Type} {reader : ByteReader State} {Unpacks : List UInt8 → Prop}
  {recorded wanted : Nat} {state : State} {bytes data content : List UInt8}

/-- The states that reading can lead to, with all that has been handed out by then. -/
inductive Handed (reader : ByteReader State) : State → List UInt8 → Prop
  | start : Handed reader reader.start []
  | read {state next : State} {bytes chunk : List UInt8} {count : Nat}
      (before : Handed reader state bytes) (asked : 0 < count)
      (read_eq : reader.read state count = .ok (chunk, next)) :
      Handed reader next (bytes ++ chunk)

/-- `Unpacks` holds of what the packed data unpack to, and of nothing if they cannot be
unpacked. A reader of data that can be unpacked fails at their end only, and there only if
the checksum is not the recorded one. -/
structure Verifies (reader : ByteReader State) (Unpacks : List UInt8 → Prop)
    (recorded : Nat) : Prop where
  unique {first second : List UInt8} : Unpacks first → Unpacks second → first = second
  length_le {state next : State} {bytes chunk : List UInt8} {count : Nat} :
    reader.Handed state bytes → reader.read state count = .ok (chunk, next) →
      chunk.length ≤ count
  in_order {state : State} {bytes data : List UInt8} :
    Unpacks data → reader.Handed state bytes → bytes <+: data
  ended {state next : State} {bytes : List UInt8} {count : Nat} :
    reader.Handed state bytes → 0 < count → reader.read state count = .ok ([], next) →
      Unpacks bytes ∧ (checksum bytes).toNat = recorded
  failed {state : State} {bytes data : List UInt8} {count : Nat} {fault : ReadFault} :
    Unpacks data → reader.Handed state bytes → 0 < count →
      reader.read state count = .error fault →
        bytes = data ∧ (checksum data).toNat ≠ recorded

/-- Fewer bytes than wanted are only delivered if the end of the data was met. -/
theorem takeFrom_eq_ok (verifies : reader.Verifies Unpacks recorded)
    (handed : reader.Handed state bytes)
    (taken : reader.takeFrom state wanted = .ok data) :
    data.length = wanted ∨
      data.length < wanted ∧ Unpacks (bytes ++ data) ∧
        (checksum (bytes ++ data)).toNat = recorded := by
  fun_induction takeFrom reader state wanted generalizing bytes data with
  | case1 state =>
      cases taken
      exact .inl rfl
  | case2 => contradiction
  | case3 state wanted asked next read_eq =>
      cases taken
      rw [List.append_nil]
      exact .inr ⟨Nat.pos_of_ne_zero asked,
        verifies.ended handed (Nat.pos_of_ne_zero asked) read_eq⟩
  | case4 state wanted asked byte chunk next read_eq ih =>
      have fits : chunk.length + 1 ≤ wanted := verifies.length_le handed read_eq
      cases rest_eq : reader.takeFrom next (wanted - (chunk.length + 1)) with
      | error fault =>
          rw [rest_eq] at taken
          contradiction
      | ok rest =>
          rw [rest_eq] at taken
          cases taken
          have onward := handed.read (Nat.pos_of_ne_zero asked) read_eq
          have split := ih onward rest_eq
          simp only [List.append_assoc] at split
          simp only [List.length_append, List.length_cons]
          rcases split with full | ⟨less, ended⟩
          · exact .inl (by omega)
          · exact .inr ⟨by omega, ended⟩

/-- Data that can be unpacked are delivered as far as they are wanted, if their checksum is
the recorded one or is not looked at. -/
theorem takeFrom_of_unpacks (verifies : reader.Verifies Unpacks recorded)
    (unpacks : Unpacks content) (handed : reader.Handed state bytes)
    (sound : bytes.length + wanted ≤ content.length ∨ (checksum content).toNat = recorded) :
    reader.takeFrom state wanted = .ok ((content.drop bytes.length).take wanted) := by
  fun_induction takeFrom reader state wanted generalizing bytes with
  | case1 state => rfl
  | case2 state wanted asked fault read_eq =>
      obtain ⟨rfl, differs⟩ := verifies.failed unpacks handed (Nat.pos_of_ne_zero asked) read_eq
      rcases sound with reaches | same
      · omega
      · contradiction
  | case3 state wanted asked next read_eq =>
      have ended := verifies.ended handed (Nat.pos_of_ne_zero asked) read_eq
      rw [verifies.unique ended.1 unpacks, List.drop_length, List.take_nil]
  | case4 state wanted asked byte chunk next read_eq ih =>
      have fits : chunk.length + 1 ≤ wanted := verifies.length_le handed read_eq
      have onward := handed.read (Nat.pos_of_ne_zero asked) read_eq
      have reached : (bytes ++ byte :: chunk).length = bytes.length + (chunk.length + 1) :=
        List.length_append
      obtain ⟨rest, rfl⟩ := verifies.in_order unpacks onward
      have whole : (byte :: chunk).take wanted = byte :: chunk := List.take_of_length_le fits
      rw [ih onward (sound.imp_left (by omega)), List.drop_left, List.append_assoc,
        List.drop_left, List.take_append, whole]
      rfl

/-- Less than what was asked for is all there is. -/
theorem Verifies.whole (verifies : reader.Verifies Unpacks recorded)
    (taken : reader.take wanted = .ok data) (less : data.length < wanted) :
    Unpacks data ∧ (checksum data).toNat = recorded := by
  rcases takeFrom_eq_ok verifies .start taken with full | ⟨-, ended⟩
  · omega
  · exact ended

theorem Verifies.take_of_unpacks (verifies : reader.Verifies Unpacks recorded)
    (unpacks : Unpacks content)
    (sound : wanted ≤ content.length ∨ (checksum content).toNat = recorded) :
    reader.take wanted = .ok (content.take wanted) :=
  takeFrom_of_unpacks verifies unpacks .start (by rwa [List.length_nil, Nat.zero_add])

end ByteReader

namespace Archive

variable {packed data bytes chunk : List UInt8} {method : Method}
  {expected handed count next : Nat}

/-- What packed bytes unpack to, however far ahead that is found out. -/
def Method.Unpacks (method : Method) (packed data : List UInt8) : Prop :=
  match method with
  | .stored => data = packed
  | .deflated => ∃ limit, Inflated.ofPacked limit packed = ⟨data, none⟩

theorem lt_windowEnd (position : Nat) : position < windowEnd position := by
  unfold windowEnd windowSize
  omega

/-- What is unpacked for a position serves to read there: all of the data, or more of them
than have been handed out. -/
inductive Serves (handed : Nat) (data : List UInt8) : Inflated → Prop
  | whole : Serves handed data ⟨data, none⟩
  | ahead {inflated : Inflated} (begun : inflated.output <+: data)
      (more : handed < inflated.output.length) (sound : inflated.halt ≠ some .corrupt) :
      Serves handed data inflated

theorem unpackPieces_serves {limit : Nat} (ended : Inflated.ofPacked limit packed = ⟨data, none⟩)
    (handed available : Nat) : Serves handed data (unpackPieces packed handed available) := by
  fun_induction unpackPieces packed handed available with
  | case1 available inflated more ih => exact ih
  | case2 available inflated enough =>
      have foretells := Inflated.ofPacked_take_foretells ended (windowEnd handed) available
      change Inflated.Foretells _ _ inflated _ at foretells
      clear_value inflated
      cases foretells with
      | same => exact .whole
      | full beyond begun =>
          exact .ahead begun (Nat.lt_trans (lt_windowEnd handed) beyond) (by simp)
      | starved lacking begun =>
          refine .ahead begun ?_ (by simp)
          exact Nat.lt_of_not_le fun few => enough ⟨lacking, rfl, few⟩

theorem ended_of_unpackPieces {available : Nat}
    (halt_eq : (unpackPieces packed handed available).halt = none) :
    ∃ limit, Inflated.ofPacked limit packed =
      ⟨(unpackPieces packed handed available).output, none⟩ := by
  fun_induction unpackPieces packed handed available with
  | case1 available inflated more ih => exact ih halt_eq
  | case2 available inflated enough =>
      have ended : Inflated.ofPacked (windowEnd handed) (packed.take available) =
          ⟨inflated.output, none⟩ := by
        rw [← halt_eq]
      have whole := Inflated.ofPacked_of_ended ended (Nat.le_refl _) (packed.drop available)
      rw [List.take_append_drop] at whole
      exact ⟨_, whole⟩

theorem Method.unpack_serves (unpacks : method.Unpacks packed data) (handed : Nat) :
    Serves handed data (method.unpack packed handed) := by
  cases method with
  | stored =>
      cases unpacks
      exact .whole
  | deflated =>
      obtain ⟨limit, ended⟩ := unpacks
      exact unpackPieces_serves ended handed pieceSize

theorem Method.unpacks_of_unpack (halt_eq : (method.unpack packed handed).halt = none) :
    method.Unpacks packed (method.unpack packed handed).output := by
  cases method with
  | stored => rfl
  | deflated => exact ended_of_unpackPieces halt_eq

theorem Method.unpacks_unique {first second : List UInt8} (left : method.Unpacks packed first)
    (right : method.Unpacks packed second) : first = second := by
  cases method with
  | stored => exact Eq.trans left (Eq.symm right)
  | deflated =>
      obtain ⟨_, left⟩ := left
      obtain ⟨_, right⟩ := right
      exact Inflated.ended_unique left right

theorem deliver_eq_ok {inflated : Inflated}
    (delivered : deliver expected handed count inflated = .ok (chunk, next)) :
    chunk = (inflated.output.drop handed).take count ∧ next = handed + chunk.length ∧
      (inflated.output.length ≤ handed →
        inflated.halt = none ∧ (checksum inflated.output).toNat = expected) := by
  unfold deliver at delivered
  split at delivered
  · contradiction
  · split at delivered
    · rename_i ahead
      cases delivered
      exact ⟨rfl, rfl, fun met => absurd ahead (Nat.not_lt_of_le met)⟩
    · rename_i met
      split at delivered
      · contradiction
      · rename_i ended
        split at delivered
        · rename_i verified
          cases delivered
          rw [List.drop_eq_nil_of_le (Nat.le_of_not_lt met), List.take_nil]
          exact ⟨rfl, rfl, fun _ => ⟨by simpa using ended, verified⟩⟩
        · contradiction

theorem deliver_eq_error {inflated : Inflated} {fault : ReadFault}
    (refused : deliver expected handed count inflated = .error fault) :
    inflated.halt = some .corrupt ∨ inflated.output.length ≤ handed ∧
      (inflated.halt ≠ none ∨ (checksum inflated.output).toNat ≠ expected) := by
  unfold deliver at refused
  split at refused
  · rename_i corrupt
    exact .inl corrupt
  · split at refused
    · contradiction
    · rename_i met
      refine .inr ⟨Nat.le_of_not_lt met, ?_⟩
      split at refused
      · rename_i early
        exact .inl (Option.isSome_iff_ne_none.mp early)
      · split at refused
        · contradiction
        · rename_i differs
          exact .inr differs

theorem Serves.begins {inflated : Inflated} (serves : Serves handed data inflated) :
    inflated.output <+: data := by
  cases serves with
  | whole => exact List.prefix_rfl
  | ahead begun more sound => exact begun

theorem Serves.refused {inflated : Inflated} {fault : ReadFault}
    (serves : Serves handed data inflated)
    (refused : deliver expected handed count inflated = .error fault) :
    data.length ≤ handed ∧ (checksum data).toNat ≠ expected := by
  cases serves with
  | whole =>
      rcases deliver_eq_error refused with corrupt | ⟨met, differs⟩
      · contradiction
      · exact ⟨met, differs.resolve_left fun early => early rfl⟩
  | ahead begun more sound =>
      rcases deliver_eq_error refused with corrupt | ⟨met, -⟩
      · exact absurd corrupt sound
      · exact absurd more (Nat.not_lt_of_le met)

theorem length_of_handed (reached : (readerOf expected method packed).Handed handed bytes) :
    bytes.length = handed := by
  induction reached with
  | start => rfl
  | read before asked read_eq ih =>
      rw [List.length_append, ih, (deliver_eq_ok read_eq).2.1]

theorem handed_in_order (unpacks : method.Unpacks packed data)
    (reached : (readerOf expected method packed).Handed handed bytes) : bytes <+: data := by
  induction reached with
  | start => exact List.nil_prefix
  | @read state next bytes chunk count before asked read_eq ih =>
      obtain ⟨rfl, -, -⟩ := deliver_eq_ok read_eq
      have begins := (method.unpack_serves unpacks state).begins
      obtain ⟨rest, rfl⟩ := ih
      have behind := begins.drop bytes.length
      rw [List.drop_left, length_of_handed before] at behind
      exact (List.prefix_append_right_inj bytes).mpr ((List.take_prefix count _).trans behind)

theorem eq_of_handed (unpacks : method.Unpacks packed data)
    (reached : (readerOf expected method packed).Handed handed bytes)
    (met : data.length ≤ handed) : bytes = data :=
  (handed_in_order unpacks reached).eq_of_length_le (by rwa [length_of_handed reached])

theorem readerOf_verifies (expected : Nat) (method : Method) (packed : List UInt8) :
    (readerOf expected method packed).Verifies (method.Unpacks packed) expected where
  unique := Method.unpacks_unique
  length_le _ read_eq := by
    rw [(deliver_eq_ok read_eq).1]
    exact List.length_take_le _ _
  in_order := handed_in_order
  ended {handed _ bytes _} reached asked read_eq := by
    obtain ⟨none_left, -, met⟩ := deliver_eq_ok read_eq
    have length_le : (method.unpack packed handed).output.length ≤ handed := by
      have empty := congrArg List.length none_left
      rw [List.length_take, List.length_drop, List.length_nil] at empty
      omega
    obtain ⟨halt_eq, verified⟩ := met length_le
    have unpacks := method.unpacks_of_unpack halt_eq
    rw [eq_of_handed unpacks reached length_le]
    exact ⟨unpacks, verified⟩
  failed {handed _ _ _ _} unpacks reached _ read_eq := by
    obtain ⟨met, differs⟩ := (method.unpack_serves unpacks handed).refused read_eq
    exact ⟨eq_of_handed unpacks reached met, differs⟩

/-- What the entry of a name unpacks to. -/
def Unpacks (archive : Archive) (name : String) (data : List UInt8) : Prop :=
  ∃ entry method packed, archive.find? name = some entry ∧
    archive.locate entry = .ok (method, packed) ∧ method.Unpacks packed data

def recorded (archive : Archive) (name : String) : Nat :=
  ((archive.find? name).map (·.checksum)).getD 0

theorem openEntry_verifies {archive : Archive} {name : String} {reader : ByteReader Nat}
    (opened : archive.openEntry name = .ok reader) :
    reader.Verifies (archive.Unpacks name) (archive.recorded name) := by
  unfold openEntry at opened
  split at opened
  · contradiction
  · rename_i entry found
    cases located : archive.locate entry with
    | error fault =>
        rw [located] at opened
        contradiction
    | ok place =>
        obtain ⟨method, packed⟩ := place
        simp only [located, Except.mapError, Bind.bind, Except.bind] at opened
        split at opened
        · contradiction
        · cases opened
          have same : archive.Unpacks name = method.Unpacks packed := by
            funext data
            simp [Unpacks, found, located]
          rw [same, recorded, found]
          exact readerOf_verifies entry.checksum method packed

end Archive

end ChipEight
