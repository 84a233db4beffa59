import ChipEight.Archive

namespace ChipEight

/-! Unpacking runs from the front to the back. A run that has only the first of the packed
bytes, or that stops at a lower limit, puts out the beginning of what the whole run puts
out, and it differs from the whole run only if it says that it stopped early. -/

/-- The same reader with more bytes behind those it has. -/
def BitReader.extend (reader : BitReader) (more : List UInt8) : BitReader :=
  ⟨reader.pending, reader.bytes ++ more⟩

namespace Reading

variable {Value : Type} {more : List UInt8} {short whole : Reading Value}

/-- More bytes change nothing but what is left to read, unless there were too few. -/
inductive Foretells (more : List UInt8) : Reading Value → Reading Value → Prop
  | starved {whole : Reading Value} (behind : more ≠ []) :
      Foretells more (.error .incomplete) whole
  | failed (halt : Halt) : Foretells more (.error halt) (.error halt)
  | read (value : Value) (rest : BitReader) :
      Foretells more (.ok (value, rest)) (.ok (value, rest.extend more))

namespace Foretells

@[elab_as_elim]
theorem elim {motive : Reading Value → Reading Value → Prop} (first : Foretells more short whole)
    (starved : ∀ {whole}, more ≠ [] → motive (.error .incomplete) whole)
    (failed : ∀ halt, motive (.error halt) (.error halt))
    (read : ∀ value rest, motive (.ok (value, rest)) (.ok (value, rest.extend more))) :
    motive short whole := by
  cases first with
  | starved behind => exact starved behind
  | failed halt => exact failed halt
  | read value rest => exact read value rest

theorem of_error {halt : Halt} (first : Foretells more short whole)
    (short_eq : short = .error halt) :
    halt = .incomplete ∧ more ≠ [] ∨ whole = .error halt := by
  cases first with
  | starved behind =>
      cases short_eq
      exact .inl ⟨rfl, behind⟩
  | failed halt => exact .inr short_eq
  | read value rest => contradiction

theorem of_ok {value : Value} {rest : BitReader} (first : Foretells more short whole)
    (short_eq : short = .ok (value, rest)) : whole = .ok (value, rest.extend more) := by
  cases first with
  | starved behind => contradiction
  | failed halt => contradiction
  | read value rest =>
      cases short_eq
      rfl

end Foretells

end Reading

open Reading (Foretells)

namespace BitReader

theorem next_foretells (more : List UInt8) (reader : BitReader) :
    Foretells more reader.next (reader.extend more).next := by
  match reader with
  | ⟨_ :: _, _⟩ => exact .read _ _
  | ⟨[], _ :: _⟩ => exact .read _ _
  | ⟨[], []⟩ =>
      cases more with
      | nil => exact .failed _
      | cons byte bytes => exact .starved (List.cons_ne_nil byte bytes)

theorem take_foretells (more : List UInt8) (reader : BitReader) (count : Nat) :
    Foretells more (reader.take count) ((reader.extend more).take count) := by
  induction count generalizing reader with
  | zero => exact .read _ _
  | succ count ih =>
      simp only [take]
      refine (next_foretells more reader).elim .starved .failed fun bit rest => ?_
      dsimp only
      exact (ih rest).elim .starved .failed fun high rest => .read _ _

theorem takeEach_foretells (more : List UInt8) (reader : BitReader) (width count : Nat) :
    Foretells more (reader.takeEach width count) ((reader.extend more).takeEach width count) := by
  induction count generalizing reader with
  | zero => exact .read _ _
  | succ count ih =>
      simp only [takeEach]
      refine (take_foretells more reader width).elim .starved .failed fun value rest => ?_
      dsimp only
      exact (ih rest).elim .starved .failed fun values rest => .read _ _

end BitReader

namespace CodeTree

theorem walk_foretells (more : List UInt8) (tree : CodeTree) (reader : BitReader) :
    Foretells more (tree.walk reader) (tree.walk (reader.extend more)) := by
  induction tree generalizing reader with
  | empty => exact .failed _
  | leaf symbol => exact .read _ _
  | node zero one zeroIh oneIh =>
      simp only [walk]
      refine (BitReader.next_foretells more reader).elim .starved .failed fun bit rest => ?_
      cases bit with
      | false => exact zeroIh rest
      | true => exact oneIh rest

theorem decode_foretells (more : List UInt8) (tree : CodeTree) (reader : BitReader) :
    Foretells more (tree.decode reader) (tree.decode (reader.extend more)) := by
  unfold decode
  split
  · exact walk_foretells more _ reader
  · exact (BitReader.next_foretells more reader).elim .starved .failed fun _ _ => .failed _

end CodeTree

namespace Inflate

theorem readExtended_foretells (more : List UInt8) (symbols : List (Nat × Nat))
    (first symbol : Nat) (reader : BitReader) :
    Foretells more (readExtended symbols first symbol reader)
      (readExtended symbols first symbol (reader.extend more)) := by
  unfold readExtended
  split
  · exact .failed _
  · exact (BitReader.take_foretells more reader _).elim .starved .failed fun extra rest =>
      .read _ _

theorem readRepetition_foretells (more : List UInt8) (distances : CodeTree) (symbol : Nat)
    (reader : BitReader) :
    Foretells more (readRepetition distances symbol reader)
      (readRepetition distances symbol (reader.extend more)) := by
  unfold readRepetition
  refine (readExtended_foretells more _ _ symbol reader).elim .starved .failed
    fun length rest => ?_
  dsimp only
  refine (distances.decode_foretells more rest).elim .starved .failed fun symbol rest => ?_
  dsimp only
  exact (readExtended_foretells more _ _ symbol rest).elim .starved .failed
    fun distance rest => .read _ _

theorem readLengthRun_foretells (more : List UInt8) (previous : Option Nat) (symbol : Nat)
    (reader : BitReader) :
    Foretells more (readLengthRun previous symbol reader)
      (readLengthRun previous symbol (reader.extend more)) := by
  have extra (count : Nat) := BitReader.take_foretells more reader count
  unfold readLengthRun
  dsimp only
  split
  · exact .read _ _
  · split
    · split
      · exact .failed _
      · exact (extra 2).elim .starved .failed fun _ _ => .read _ _
    · split
      · exact (extra 3).elim .starved .failed fun _ _ => .read _ _
      · exact (extra 7).elim .starved .failed fun _ _ => .read _ _

theorem readLengths_of_not_le {code : CodeTree} {wanted : Nat} {lengths : Array Nat}
    (lacking : ¬wanted ≤ lengths.size) (reader : BitReader) :
    readLengths code wanted lengths reader =
      match code.decode reader with
      | .error halt => .error halt
      | .ok (symbol, rest) =>
          match readLengthRun lengths.back? symbol rest with
          | .error halt => .error halt
          | .ok (run, rest) => readLengths code wanted (lengths ++ run) rest := by
  rw [readLengths, if_neg lacking]
  grind

theorem readLengths_foretells (more : List UInt8) (code : CodeTree) (wanted : Nat)
    (lengths : Array Nat) (reader : BitReader) :
    Foretells more (readLengths code wanted lengths reader)
      (readLengths code wanted lengths (reader.extend more)) := by
  fun_induction readLengths code wanted lengths reader with
  | case1 lengths reader enough exact =>
      rw [readLengths, if_pos enough, if_pos exact]
      exact .read _ _
  | case2 lengths reader enough beyond =>
      rw [readLengths, if_pos enough, if_neg beyond]
      exact .failed _
  | case3 lengths reader lacking halt decode_eq =>
      rw [readLengths_of_not_le lacking]
      rcases (code.decode_foretells more reader).of_error decode_eq with
        ⟨rfl, behind⟩ | decode_eq
      · exact .starved behind
      · rw [decode_eq]
        exact .failed _
  | case4 lengths reader lacking symbol rest decode_eq halt run_eq =>
      rw [readLengths_of_not_le lacking, (code.decode_foretells more reader).of_ok decode_eq]
      rcases (readLengthRun_foretells more _ symbol rest).of_error run_eq with
        ⟨rfl, behind⟩ | run_eq
      · exact .starved behind
      · simp only [run_eq]
        exact .failed _
  | case5 lengths reader lacking symbol rest decode_eq run rest' run_eq ih =>
      rw [readLengths_of_not_le lacking, (code.decode_foretells more reader).of_ok decode_eq]
      simp only [(readLengthRun_foretells more _ symbol rest).of_ok run_eq]
      exact ih

theorem readCounts_foretells (more : List UInt8) (reader : BitReader) :
    Foretells more (readCounts reader) (readCounts (reader.extend more)) := by
  unfold readCounts
  refine (BitReader.take_foretells more reader 14).elim .starved .failed fun counts rest => ?_
  dsimp only
  split
  · exact .read _ _
  · exact .failed _

theorem readLengthCode_foretells (more : List UInt8) (count : Nat) (reader : BitReader) :
    Foretells more (readLengthCode count reader)
      (readLengthCode count (reader.extend more)) := by
  unfold readLengthCode
  refine (BitReader.takeEach_foretells more reader 3 count).elim .starved .failed
    fun lengths rest => ?_
  dsimp only
  split
  · exact .read _ _
  · exact .failed _

theorem readCodes_foretells (more : List UInt8) (reader : BitReader) :
    Foretells more (readCodes reader) (readCodes (reader.extend more)) := by
  unfold readCodes
  refine (readCounts_foretells more reader).elim .starved .failed fun counts rest => ?_
  dsimp only
  refine (readLengthCode_foretells more _ rest).elim .starved .failed fun lengthCode rest => ?_
  dsimp only
  refine (readLengths_foretells more lengthCode _ _ rest).elim .starved .failed
    fun lengths rest => ?_
  dsimp only
  split
  · exact .failed _
  · exact .read _ _

/-! Output is only ever added to. -/

theorem repeatBack_extends (distance length : Nat) (output : Array UInt8) :
    output.toList <+: (repeatBack distance length output).toList := by
  induction length generalizing output with
  | zero => exact List.prefix_rfl
  | succ length ih =>
      refine List.IsPrefix.trans ?_ (ih _)
      rw [Array.toList_push]
      exact List.prefix_append _ _

theorem symbols_extends (limit : Nat) (literals distances : CodeTree) (output : Array UInt8)
    (reader : BitReader) :
    output.toList <+: (symbols limit literals distances output reader).output.toList := by
  fun_induction symbols limit literals distances output reader with
  | case1 => exact List.prefix_rfl
  | case2 => exact List.prefix_rfl
  | case3 output _ _ symbol _ _ _ ih =>
      rw [Array.toList_push] at ih
      exact (List.prefix_append _ _).trans ih
  | case4 => exact List.prefix_rfl
  | case5 => exact List.prefix_rfl
  | case6 output _ _ _ _ _ _ _ length distance _ _ ih =>
      exact (repeatBack_extends distance length output).trans ih

theorem stored_extends (output : Array UInt8) (reader : BitReader) :
    output.toList <+: (stored output reader).output.toList := by
  unfold stored
  split
  · exact List.prefix_rfl
  · dsimp only
    split
    · split <;> simp
    · exact List.prefix_rfl

theorem block_extends (limit kind : Nat) (output : Array UInt8) (reader : BitReader) :
    output.toList <+: (block limit kind output reader).output.toList := by
  unfold block
  split
  · exact stored_extends output reader
  · exact symbols_extends limit _ _ output reader
  · split
    · exact List.prefix_rfl
    · exact symbols_extends limit _ _ output _
  · exact List.prefix_rfl

theorem blocks_extends (limit : Nat) (output : Array UInt8) (reader : BitReader) :
    output.toList <+: (blocks limit output reader).output.toList := by
  fun_induction blocks limit output reader with
  | case1 => exact List.prefix_rfl
  | case2 => exact List.prefix_rfl
  | case3 => exact block_extends _ _ _ _
  | case4 => exact block_extends _ _ _ _
  | case5 _ _ _ _ _ _ _ _ _ _ ih => exact (block_extends _ _ _ _).trans ih

/-! A run up to `limit` and one at least as far, with more bytes behind. -/

variable {limit higher : Nat} {more : List UInt8}

inductive Progress.Foretells (limit : Nat) (more : List UInt8) : Progress → Progress → Prop
  | full {output : Array UInt8} {whole : Progress} (beyond : limit < output.size)
      (begun : output.toList <+: whole.output.toList) :
      Foretells limit more ⟨output, .error .full⟩ whole
  | starved {output : Array UInt8} {whole : Progress} (behind : more ≠ [])
      (begun : output.toList <+: whole.output.toList) :
      Foretells limit more ⟨output, .error .incomplete⟩ whole
  | failed (output : Array UInt8) (halt : Halt) :
      Foretells limit more ⟨output, .error halt⟩ ⟨output, .error halt⟩
  | ended (output : Array UInt8) (rest : BitReader) :
      Foretells limit more ⟨output, .ok rest⟩ ⟨output, .ok (rest.extend more)⟩

theorem Progress.Foretells.of_ok {part whole : Progress} {rest : BitReader}
    (first : Foretells limit more part whole) (rest_eq : part.rest = .ok rest) :
    whole = ⟨part.output, .ok (rest.extend more)⟩ := by
  cases first with
  | full => contradiction
  | starved => contradiction
  | failed => contradiction
  | ended output rest =>
      cases rest_eq
      rfl

theorem symbols_of_not_lt {output : Array UInt8} (room : ¬limit < output.size)
    (literals distances : CodeTree) (reader : BitReader) :
    symbols limit literals distances output reader =
      match literals.decode reader with
      | .error halt => ⟨output, .error halt⟩
      | .ok (symbol, rest) =>
          if symbol < endOfBlock then
            symbols limit literals distances (output.push (UInt8.ofNat symbol)) rest
          else if symbol = endOfBlock then
            ⟨output, .ok rest⟩
          else
            match readRepetition distances symbol rest with
            | .error halt => ⟨output, .error halt⟩
            | .ok ((length, distance), rest) =>
                symbols limit literals distances (repeatBack distance length output) rest := by
  rw [symbols, if_neg room]
  grind

theorem symbols_foretells (le : limit ≤ higher) (more : List UInt8)
    (literals distances : CodeTree) (output : Array UInt8) (reader : BitReader) :
    Progress.Foretells limit more (symbols limit literals distances output reader)
      (symbols higher literals distances output (reader.extend more)) := by
  have begun (output : Array UInt8) (reader : BitReader) :=
    symbols_extends higher literals distances output (reader.extend more)
  have onward {output : Array UInt8} (room : ¬limit < output.size) (reader : BitReader) :=
    symbols_of_not_lt (show ¬higher < output.size by omega) literals distances
      (reader.extend more)
  fun_induction symbols limit literals distances output reader with
  | case1 output reader beyond => exact .full beyond (begun output reader)
  | case2 output reader room halt decode_eq =>
      rcases (literals.decode_foretells more reader).of_error decode_eq with
        ⟨rfl, behind⟩ | decode_eq
      · exact .starved behind (begun output reader)
      · rw [onward room, decode_eq]
        exact .failed output halt
  | case3 output reader room symbol rest decode_eq isByte ih =>
      rw [onward room, (literals.decode_foretells more reader).of_ok decode_eq]
      simp only [isByte, if_true]
      exact ih
  | case4 output reader room rest decode_eq notByte =>
      rw [onward room, (literals.decode_foretells more reader).of_ok decode_eq]
      exact .ended output rest
  | case5 output reader room symbol rest decode_eq notByte notEnd halt repetition_eq =>
      rcases (readRepetition_foretells more distances symbol rest).of_error repetition_eq with
        ⟨rfl, behind⟩ | repetition_eq
      · exact .starved behind (begun output reader)
      · rw [onward room, (literals.decode_foretells more reader).of_ok decode_eq]
        simp only [notByte, notEnd, if_false, repetition_eq]
        exact .failed output halt
  | case6 output reader room symbol rest decode_eq notByte notEnd length distance behind
      repetition_eq ih =>
      rw [onward room, (literals.decode_foretells more reader).of_ok decode_eq]
      simp only [notByte, notEnd, if_false,
        (readRepetition_foretells more distances symbol rest).of_ok repetition_eq]
      exact ih

theorem stored_foretells (limit : Nat) (more : List UInt8) (output : Array UInt8)
    (reader : BitReader) :
    Progress.Foretells limit more (stored output reader)
      (stored output (reader.extend more)) := by
  have begun := stored_extends output (reader.extend more)
  have header_foretells := BitReader.take_foretells more reader.align 32
  change Foretells more _ ((reader.extend more).align.take 32) at header_foretells
  unfold stored at begun ⊢
  cases header_eq : reader.align.take 32 with
  | error halt =>
      rcases header_foretells.of_error header_eq with ⟨rfl, behind⟩ | header_eq
      · exact .starved behind begun
      · rw [header_eq]
        exact .failed output halt
  | ok header =>
      obtain ⟨header, rest⟩ := header
      rw [header_foretells.of_ok header_eq]
      dsimp only [BitReader.extend]
      split
      · rcases Nat.lt_or_ge rest.bytes.length (header % 0x10000) with lacking | enough
        · rw [if_pos lacking]
          cases more with
          | nil =>
              rw [List.append_nil, if_pos lacking]
              exact .failed _ .incomplete
          | cons byte bytes =>
              refine .starved (List.cons_ne_nil byte bytes) ?_
              rw [List.take_append]
              split <;> simp
        · rw [if_neg (Nat.not_lt_of_le enough),
            if_neg (Nat.not_lt_of_le (Nat.le_trans enough (by simp))),
            List.take_append_of_le_length enough, List.drop_append_of_le_length enough]
          exact .ended _ _
      · exact .failed output .corrupt

theorem block_foretells (le : limit ≤ higher) (more : List UInt8) (kind : Nat)
    (output : Array UInt8) (reader : BitReader) :
    Progress.Foretells limit more (block limit kind output reader)
      (block higher kind output (reader.extend more)) := by
  have begun := block_extends higher kind output (reader.extend more)
  unfold block at begun ⊢
  split
  · exact stored_foretells limit more output reader
  · exact symbols_foretells le more _ _ output reader
  · cases codes_eq : readCodes reader with
    | error halt =>
        rcases (readCodes_foretells more reader).of_error codes_eq with
          ⟨rfl, behind⟩ | codes_eq
        · exact .starved behind begun
        · rw [codes_eq]
          exact .failed output halt
    | ok codes =>
        rw [(readCodes_foretells more reader).of_ok codes_eq]
        exact symbols_foretells le more _ _ output _
  · exact .failed output .corrupt

theorem blocks_of_not_lt {output : Array UInt8} (room : ¬limit < output.size)
    (reader : BitReader) :
    blocks limit output reader =
      match reader.take 3 with
      | .error halt => ⟨output, .error halt⟩
      | .ok (header, rest) =>
          let progress := block limit (header / 2) output rest
          match progress.rest with
          | .error _ => progress
          | .ok rest =>
              if header % 2 = 1 then progress else blocks limit progress.output rest := by
  rw [blocks, if_neg room]
  grind

theorem block_begins {output : Array UInt8} {header : Nat} {reader rest : BitReader}
    (room : ¬limit < output.size) (header_eq : reader.take 3 = .ok (header, rest)) :
    (block limit (header / 2) output rest).output.toList <+:
      (blocks limit output reader).output.toList := by
  rw [blocks_of_not_lt room, header_eq]
  dsimp only
  split
  · exact List.prefix_rfl
  · split
    · exact List.prefix_rfl
    · exact blocks_extends _ _ _

theorem blocks_foretells (le : limit ≤ higher) (more : List UInt8) (output : Array UInt8)
    (reader : BitReader) :
    Progress.Foretells limit more (blocks limit output reader)
      (blocks higher output (reader.extend more)) := by
  have onward {output : Array UInt8} (room : ¬limit < output.size) : ¬higher < output.size := by
    omega
  fun_induction blocks limit output reader with
  | case1 output reader beyond => exact .full beyond (blocks_extends _ _ _)
  | case2 output reader room halt header_eq =>
      rcases (BitReader.take_foretells more reader 3).of_error header_eq with
        ⟨rfl, behind⟩ | header_eq
      · exact .starved behind (blocks_extends _ _ _)
      · rw [blocks_of_not_lt (onward room), header_eq]
        exact .failed output halt
  | case3 output reader room header rest header_eq progress halt block_eq =>
      have header_eq := (BitReader.take_foretells more reader 3).of_ok header_eq
      have begins := block_begins (onward room) header_eq
      rw [blocks_of_not_lt (onward room), header_eq] at begins ⊢
      have foretells := block_foretells le more (header / 2) output rest
      change Progress.Foretells limit more progress _ at foretells
      dsimp only at begins ⊢
      generalize block higher (header / 2) output (rest.extend more) = whole at *
      clear_value progress
      cases foretells with
      | full beyond begun => exact .full beyond (begun.trans begins)
      | starved behind begun => exact .starved behind (begun.trans begins)
      | failed output halt => exact .failed output halt
      | ended output rest => contradiction
  | case4 output reader room header rest header_eq progress rest' block_eq last =>
      have foretells := block_foretells le more (header / 2) output rest
      change Progress.Foretells limit more progress _ at foretells
      have whole_eq := foretells.of_ok block_eq
      rw [whole_eq] at foretells
      rw [blocks_of_not_lt (onward room), (BitReader.take_foretells more reader 3).of_ok header_eq]
      dsimp only
      rw [whole_eq]
      simp only [last, if_true]
      exact foretells
  | case5 output reader room header rest header_eq progress rest' block_eq notLast ih =>
      have foretells := block_foretells le more (header / 2) output rest
      change Progress.Foretells limit more progress _ at foretells
      rw [blocks_of_not_lt (onward room), (BitReader.take_foretells more reader 3).of_ok header_eq]
      dsimp only
      rw [foretells.of_ok block_eq]
      simp only [notLast, if_false]
      exact ih

end Inflate

namespace Inflated

variable {limit higher : Nat} {packed more data other : List UInt8}

/-- A run up to `limit` and the whole run: they are the same, or the first says that it
reached its limit, or that it lacked bytes, of which there are some `behind`. -/
inductive Foretells (limit : Nat) (behind : Prop) : Inflated → Inflated → Prop
  | same (whole : Inflated) : Foretells limit behind whole whole
  | full {output : List UInt8} {whole : Inflated} (beyond : limit < output.length)
      (begun : output <+: whole.output) : Foretells limit behind ⟨output, some .full⟩ whole
  | starved {output : List UInt8} {whole : Inflated} (lacking : behind)
      (begun : output <+: whole.output) : Foretells limit behind ⟨output, some .incomplete⟩ whole

theorem ofPacked_foretells (le : limit ≤ higher) (packed more : List UInt8) :
    Foretells limit (more ≠ []) (ofPacked limit packed) (ofPacked higher (packed ++ more)) := by
  have foretells := Inflate.blocks_foretells le more #[] (.ofBytes packed)
  change Inflate.Progress.Foretells limit more _
    (Inflate.blocks higher #[] (.ofBytes (packed ++ more))) at foretells
  unfold ofPacked
  generalize Inflate.blocks limit #[] (.ofBytes packed) = part at *
  generalize Inflate.blocks higher #[] (.ofBytes (packed ++ more)) = whole at *
  cases foretells with
  | full beyond begun => exact .full beyond begun
  | starved behind begun => exact .starved behind begun
  | failed output halt => exact .same _
  | ended output rest => exact .same _

/-- A run that reached its end is not changed by a higher limit or by more bytes. -/
theorem ofPacked_of_ended (ended : ofPacked limit packed = ⟨data, none⟩) (le : limit ≤ higher)
    (more : List UInt8) : ofPacked higher (packed ++ more) = ⟨data, none⟩ := by
  have foretells := ofPacked_foretells le packed more
  rw [ended] at foretells
  generalize ofPacked higher (packed ++ more) = whole at *
  cases foretells
  rfl

theorem ended_unique (first : ofPacked limit packed = ⟨data, none⟩)
    (second : ofPacked higher packed = ⟨other, none⟩) : data = other := by
  have left := ofPacked_of_ended first (Nat.le_max_left limit higher) []
  have right := ofPacked_of_ended second (Nat.le_max_right limit higher) []
  rw [left] at right
  cases right
  rfl

/-- Any run over the first of the packed bytes, where a run over all of them reaches its end. -/
theorem ofPacked_take_foretells (ended : ofPacked higher packed = ⟨data, none⟩)
    (limit available : Nat) :
    Foretells limit (available < packed.length) (ofPacked limit (packed.take available))
      ⟨data, none⟩ := by
  have whole := ofPacked_of_ended ended (Nat.le_max_right limit higher) []
  have foretells := ofPacked_foretells (Nat.le_max_left limit higher) (packed.take available)
    (packed.drop available)
  rw [List.append_nil] at whole
  rwa [List.take_append_drop, whole, ne_eq, List.drop_eq_nil_iff, Nat.not_le] at foretells

end Inflated

end ChipEight
