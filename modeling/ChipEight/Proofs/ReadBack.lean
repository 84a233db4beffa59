import ChipEight.Proofs.Rows

namespace ChipEight

/-! A listing keeps the state. Its lines are where its newlines are, its sections begin where
a line is neither empty nor indented twice, and the blanks of a row separate its numbers. So
two processors with the same listing differ in nothing that a listing shows. -/

namespace Listing

/-- A text that does not end a line. -/
def OneLine (text : String) : Prop :=
  '\n' ∉ text.toList

instance (text : String) : Decidable (OneLine text) :=
  inferInstanceAs (Decidable (_ ∉ _))

theorem OneLine.append {first second : String} (before : OneLine first)
    (after : OneLine second) : OneLine (first ++ second) := by
  rw [OneLine, String.toList_append, List.mem_append, not_or]
  exact ⟨before, after⟩

theorem oneLine_literal (number : Nat) : OneLine (Hex.literal number) :=
  Hex.notMem_literal (by decide) number

theorem oneLine_span (first last : Nat) : OneLine (span first last) :=
  (((oneLine_literal first).append (by decide)).append (oneLine_literal last)).append (by decide)

theorem words_cons (value : Nat) (values : List Nat) :
    words (value :: values) = " " ++ Hex.literal value ++ words values :=
  String.join_cons

theorem oneLine_words (values : List Nat) : OneLine (words values) := by
  induction values with
  | nil => exact List.not_mem_nil
  | cons value values ih =>
      rw [words_cons]
      exact (OneLine.append (by decide) (oneLine_literal value)).append ih

theorem oneLine_memoryRow (row : MemoryRow) : OneLine (memoryRow row) := by
  cases row with
  | words first last values => exact (oneLine_span first last).append (oneLine_words _)
  | zeros first last =>
      exact ((((oneLine_span first last).append (by decide)).append (oneLine_literal 0)).append
        (by decide)).append (oneLine_literal 0)

theorem oneLine_of_mem_rowsOf {Entry : Type} {entries : List Entry}
    {text : List Entry → String} {row : String} (plain : ∀ entries, OneLine (text entries))
    (member : row ∈ rowsOf entries text) : OneLine row := by
  obtain ⟨⟨start, count⟩, _, rfl⟩ := List.mem_map.mp member
  exact (oneLine_span _ _).append (plain _)

/-! Numbers in a row are what stands between its blanks. -/

def field (number : Nat) : List Char :=
  (Hex.literal number).toList

theorem field_injective {first second : Nat} (same : field first = field second) :
    first = second :=
  Hex.literal_injective (String.toList_inj.mp same)

theorem map_field_injective {first second : List Nat}
    (same : first.map field = second.map field) : first = second :=
  (List.map_inj_right fun _ _ => field_injective).mp same

theorem blank_notMem_field (number : Nat) : ' ' ∉ field number :=
  Hex.notMem_literal (by decide) number

theorem splitOn_field (number : Nat) (rest : List Char) :
    (field number ++ ' ' :: rest).splitOn ' ' = field number :: rest.splitOn ' ' :=
  List.splitOn_append_cons_self_of_not_mem (blank_notMem_field number) rest

theorem splitOn_words (front : List Char) (plain : ' ' ∉ front) (values : List Nat) :
    (front ++ (words values).toList).splitOn ' ' = front :: values.map field := by
  induction values generalizing front with
  | nil =>
      rw [words, List.map_nil, String.join_nil, String.toList_empty, List.append_nil]
      exact List.splitOn_eq_singleton plain
  | cons value values ih =>
      have rest := ih (field value) (blank_notMem_field value)
      rw [words_cons, String.toList_append, String.toList_append, List.append_assoc]
      exact (List.splitOn_append_cons_self_of_not_mem plain _).trans (congrArg _ rest)

theorem words_injective {first second : List Nat} (same : words first = words second) :
    first = second := by
  have texts := splitOn_words [] List.not_mem_nil first
  rw [same, splitOn_words [] List.not_mem_nil second, List.cons.injEq] at texts
  exact (map_field_injective texts.2).symm

/-- What stands between the blanks of a row. -/
def memoryFields : MemoryRow → List (List Char)
  | .words first last values =>
      field first :: ['-'] :: field last :: [':'] :: (values.map UInt16.toNat).map field
  | .zeros first last =>
      [field first, ['-'], field last, [':'], field 0, ['.', '.', '.'], field 0]

theorem splitOn_span (first last : Nat) (rest : List Char) :
    ((span first last).toList ++ rest).splitOn ' ' =
      field first :: ['-'] :: field last :: (':' :: rest).splitOn ' ' := by
  have text : (span first last).toList ++ rest =
      field first ++ ' ' :: (['-'] ++ ' ' :: (field last ++ ' ' :: (':' :: rest))) := by
    simp only [span, field, String.toList_append, List.append_assoc]
    rfl
  rw [text, splitOn_field, List.splitOn_append_cons_self_of_not_mem (by decide), splitOn_field]

theorem splitOn_memoryRow (row : MemoryRow) :
    (memoryRow row).toList.splitOn ' ' = memoryFields row := by
  cases row with
  | words first last values =>
      have numbers := splitOn_words [':'] (by decide) (values.map UInt16.toNat)
      rw [memoryRow, String.toList_append, splitOn_span, memoryFields]
      exact congrArg _ (congrArg _ (congrArg _ numbers))
  | zeros first last =>
      have text : (memoryRow (.zeros first last)).toList =
          (span first last).toList ++
            ' ' :: (field 0 ++ ' ' :: (['.', '.', '.'] ++ ' ' :: field 0)) := by
        simp only [memoryRow, field, String.toList_append, List.append_assoc]
        rfl
      have numbers : ([':'] ++ ' ' :: (field 0 ++ ' ' ::
          (['.', '.', '.'] ++ ' ' :: field 0))).splitOn ' ' =
            [[':'], field 0, ['.', '.', '.'], field 0] := by
        rw [List.splitOn_append_cons_self_of_not_mem (by decide), splitOn_field,
          List.splitOn_append_cons_self_of_not_mem (by decide),
          List.splitOn_eq_singleton (blank_notMem_field 0)]
      rw [text, splitOn_span, memoryFields]
      exact congrArg _ (congrArg _ (congrArg _ numbers))

theorem dots_notMem_fields (numbers : List Nat) : ['.', '.', '.'] ∉ numbers.map field := by
  intro member
  obtain ⟨number, _, same⟩ := List.mem_map.mp member
  have low : '.' ∉ field number := Hex.notMem_literal (by decide) number
  rw [same] at low
  exact low (by decide)

theorem fields_ne_dots (numbers : List Nat) :
    numbers.map field ≠ [field 0, ['.', '.', '.'], field 0] := by
  intro same
  have dots := dots_notMem_fields numbers
  rw [same] at dots
  exact dots (List.mem_cons_of_mem _ List.mem_cons_self)

theorem memoryFields_injective {first second : MemoryRow}
    (same : memoryFields first = memoryFields second) : first = second := by
  cases first <;> cases second <;>
    simp only [memoryFields, List.cons.injEq, true_and, and_true] at same
  case words.words start last values other final others =>
    obtain ⟨firsts, lasts, numbers⟩ := same
    have values_eq := (List.map_inj_right fun _ _ => UInt16.toNat_inj.mp).mp
      (map_field_injective numbers)
    rw [field_injective firsts, field_injective lasts, values_eq]
  case words.zeros =>
    exact absurd same.2.2 (fields_ne_dots _)
  case zeros.words =>
    exact absurd same.2.2.symm (fields_ne_dots _)
  case zeros.zeros =>
    rw [field_injective same.1, field_injective same.2]

theorem memoryRow_injective {first second : MemoryRow}
    (same : memoryRow first = memoryRow second) : first = second := by
  have fields := splitOn_memoryRow first
  rw [same, splitOn_memoryRow second] at fields
  exact (memoryFields_injective fields).symm

/-- A flag in a column of its own, behind which another follows. -/
def column (flag : Bool) : String :=
  if flag then " true  " else " false "

theorem flags_cons_cons (flag next : Bool) (rest : List Bool) :
    flags (flag :: next :: rest) = column flag ++ flags (next :: rest) := by
  cases flag <;> rfl

theorem oneLine_flags (values : List Bool) : OneLine (flags values) := by
  induction values with
  | nil => exact List.not_mem_nil
  | cons flag rest ih =>
      cases rest with
      | nil => cases flag <;> decide
      | cons next rest =>
          rw [flags_cons_cons]
          exact OneLine.append (by cases flag <;> decide) ih

theorem flags_injective {first second : List Bool} (length_eq : first.length = second.length)
    (same : flags first = flags second) : first = second := by
  have wide : ∀ flag, (column flag).toList.length = 7 := by decide
  have tells : ∀ flag other, (column flag).toList = (column other).toList → flag = other := by
    decide
  induction first generalizing second with
  | nil => exact (List.length_eq_zero_iff.mp length_eq.symm).symm
  | cons flag rest ih =>
      match rest, second with
      | [], [other] => revert flag other; decide
      | next :: rest, other :: another :: others =>
          have texts := congrArg String.toList same
          rw [flags_cons_cons, flags_cons_cons, String.toList_append, String.toList_append]
            at texts
          obtain ⟨columns, behind⟩ := List.append_inj texts ((wide flag).trans (wide other).symm)
          rw [tells flag other columns,
            ih (Nat.succ.inj length_eq) (String.toList_inj.mp behind)]

/-! Sections begin where a line is neither empty nor indented twice. -/

def IsTitle (text : String) : Prop :=
  text.toList.head? ≠ some '\t' ∧ OneLine text

instance (text : String) : Decidable (IsTitle text) :=
  inferInstanceAs (Decidable (_ ∧ _))

structure Section.Plain (part : Section) : Prop where
  title : IsTitle part.title
  rows : ∀ row ∈ part.rows, OneLine row

/-- The lines below the title. -/
def Section.body (part : Section) : List String :=
  if part.rows = [] then [""] else part.rows.map ("\t\t" ++ ·)

def Section.lines (part : Section) : List String :=
  ("\t" ++ part.title ++ " :") :: part.body

def unlines (lines : List String) : String :=
  String.join (lines.map (· ++ "\n"))

theorem unlines_cons (line : String) (lines : List String) :
    unlines (line :: lines) = line ++ "\n" ++ unlines lines :=
  String.join_cons

theorem unlines_append (front back : List String) :
    unlines (front ++ back) = unlines front ++ unlines back := by
  rw [unlines, List.map_append, String.join_append]
  rfl

theorem intercalate_append_eq_unlines {lines : List String} (some : lines ≠ []) :
    "\n".intercalate lines ++ "\n" = unlines lines := by
  induction lines with
  | nil => contradiction
  | cons line lines ih =>
      cases lines with
      | nil =>
          rw [String.intercalate_singleton, unlines_cons]
          exact (String.append_empty).symm
      | cons next lines =>
          rw [String.intercalate_cons_cons, String.append_assoc, ih (List.cons_ne_nil _ _),
            unlines_cons line]

theorem Section.text_eq_unlines (part : Section) : part.text = unlines part.lines := by
  have ending : " :\n" = " :" ++ "\n" := rfl
  have rows : "\n".intercalate (part.rows.map fun row => "\t\t" ++ row) ++ "\n" =
      unlines part.body := by
    rw [body]
    split
    case isTrue none => rw [none]; rfl
    case isFalse some => exact intercalate_append_eq_unlines (mt List.map_eq_nil_iff.mp some)
  rw [text, lines, unlines_cons, ending, String.append_assoc, rows]
  repeat rw [String.append_assoc]

theorem splitOn_unlines {lines : List String} (plain : ∀ line ∈ lines, OneLine line) :
    (unlines lines).toList.splitOn '\n' = lines.map String.toList ++ [[]] := by
  induction lines with
  | nil => rfl
  | cons line lines ih =>
      rw [List.forall_mem_cons] at plain
      rw [unlines_cons, String.toList_append, String.toList_append, List.append_assoc]
      exact (List.splitOn_append_cons_self_of_not_mem plain.1 _).trans
        (congrArg _ (ih plain.2))

theorem unlines_injective {first second : List String} (before : ∀ line ∈ first, OneLine line)
    (after : ∀ line ∈ second, OneLine line) (same : unlines first = unlines second) :
    first = second := by
  have texts := splitOn_unlines before
  rw [same, splitOn_unlines after, List.append_left_inj] at texts
  exact ((List.map_inj_right fun _ _ => String.toList_inj.mp).mp texts).symm

/-- A line that cannot be the title of a section. -/
def isInner (line : String) : Bool :=
  match line.toList with
  | [] | '\t' :: '\t' :: _ => true
  | _ => false

namespace Section

theorem oneLine_of_mem_lines {part : Section} (plain : part.Plain) {line : String}
    (member : line ∈ part.lines) : OneLine line := by
  rw [lines, List.mem_cons, body] at member
  rcases member with rfl | member
  · exact (OneLine.append (by decide) plain.title.2).append (by decide)
  · split at member
    case isTrue => rw [List.mem_singleton.mp member]; decide
    case isFalse =>
      obtain ⟨row, row_mem, rfl⟩ := List.mem_map.mp member
      exact OneLine.append (by decide) (plain.rows row row_mem)

theorem isInner_of_mem_body {part : Section} {line : String} (member : line ∈ part.body) :
    isInner line := by
  rw [body] at member
  split at member
  case isTrue => rw [List.mem_singleton.mp member]; rfl
  case isFalse =>
    obtain ⟨row, _, rfl⟩ := List.mem_map.mp member
    rw [isInner, String.toList_append]
    rfl

theorem isInner_title {title : String} (starts : IsTitle title) :
    isInner ("\t" ++ title ++ " :") = false := by
  obtain ⟨starts, _⟩ := starts
  rw [isInner, String.toList_append, String.toList_append]
  cases shape : title.toList with
  | nil => rfl
  | cons char rest =>
      rw [shape, List.head?_cons, ne_eq, Option.some.injEq] at starts
      split
      case h_1 same => cases same
      case h_2 same => exact absurd (List.cons.inj (List.cons.inj same).2).1 starts
      case h_3 => rfl

theorem takeWhile_flatMap_lines {parts : List Section} (plain : ∀ part ∈ parts, part.Plain) :
    (parts.flatMap lines).takeWhile isInner = [] := by
  cases parts with
  | nil => rfl
  | cons part parts =>
      rw [List.flatMap_cons, lines, List.cons_append, List.takeWhile_cons_of_neg]
      rw [isInner_title (plain part List.mem_cons_self).title]
      exact Bool.false_ne_true

theorem body_injective {first second : Section} (titles : first.title = second.title)
    (same : first.body = second.body) : first = second := by
  have indented : ∀ row : String, "\t\t" ++ row ≠ "" := by
    intro row empty
    have chars := congrArg String.toList empty
    rw [String.toList_append] at chars
    cases chars
  have rows_eq : first.rows = second.rows := by
    rw [body, body] at same
    split at same <;> split at same
    case isTrue.isTrue none other => rw [none, other]
    case isTrue.isFalse =>
      obtain ⟨row, _, empty⟩ := List.mem_map.mp (same ▸ List.mem_singleton_self "")
      exact absurd empty (indented row)
    case isFalse.isTrue =>
      obtain ⟨row, _, empty⟩ := List.mem_map.mp (same.symm ▸ List.mem_singleton_self "")
      exact absurd empty (indented row)
    case isFalse.isFalse =>
      exact (List.map_inj_right fun _ _ => (String.append_right_inj _).mp).mp same
  cases first
  cases second
  cases titles
  cases rows_eq
  rfl

/-- Sections with given titles are told by their lines. -/
theorem flatMap_lines_injective {first second : List Section}
    (titles : first.map title = second.map title) (before : ∀ part ∈ first, part.Plain)
    (after : ∀ part ∈ second, part.Plain) (same : first.flatMap lines = second.flatMap lines) :
    first = second := by
  induction first generalizing second with
  | nil => exact (List.map_eq_nil_iff.mp titles.symm).symm
  | cons part parts ih =>
      match second with
      | other :: others =>
          rw [List.map_cons, List.map_cons, List.cons.injEq] at titles
          rw [List.forall_mem_cons] at before after
          simp only [List.flatMap_cons, lines, List.cons_append, List.cons.injEq] at same
          have rows := congrArg (List.takeWhile isInner) same.2
          rw [List.takeWhile_append_of_pos fun _ => isInner_of_mem_body,
            List.takeWhile_append_of_pos fun _ => isInner_of_mem_body,
            takeWhile_flatMap_lines before.2, takeWhile_flatMap_lines after.2,
            List.append_nil, List.append_nil] at rows
          have rest := same.2
          rw [rows, List.append_cancel_left_eq] at rest
          rw [body_injective titles.1 rows, ih titles.2 before.2 after.2 rest]

end Section

theorem plain_of_mem_sections {processor : Processor} {part : Section}
    (member : part ∈ sections processor) : part.Plain := by
  have titles : ∀ title ∈ (sections processor).map Section.title, IsTitle title := by
    simp only [sections, List.map_cons, List.map_nil]
    decide
  have values : ∀ numbers, ∀ row ∈ rowsOf numbers words, OneLine row :=
    fun _ _ => oneLine_of_mem_rowsOf oneLine_words
  refine ⟨titles _ (List.mem_map_of_mem member), ?_⟩
  revert part
  simp only [sections, List.forall_mem_cons, List.not_mem_nil, false_imp_iff, implies_true,
    and_true]
  refine ⟨oneLine_literal _, oneLine_literal _, oneLine_literal _, oneLine_literal _,
    values _, ?_, ?_, values _, values _⟩
  · intro row member
    obtain ⟨row, _, rfl⟩ := List.mem_map.mp member
    exact oneLine_memoryRow row
  · exact fun _ => oneLine_of_mem_rowsOf oneLine_flags

theorem join_texts (parts : List Section) :
    String.join (parts.map Section.text) = unlines (parts.flatMap Section.lines) := by
  induction parts with
  | nil => rfl
  | cons part parts ih =>
      rw [List.map_cons, String.join_cons, ih, Section.text_eq_unlines, List.flatMap_cons,
        unlines_append]

theorem listing_eq_unlines (processor : Processor) :
    processor.listing =
      "Cpu \x7b\n" ++ unlines ((sections processor).flatMap Section.lines) ++ "\x7d" :=
  congrArg (fun text => "Cpu \x7b\n" ++ text ++ "\x7d") (join_texts (sections processor))

/-- The sections of a listing can be read from it. -/
theorem sections_injective {first second : Processor}
    (same : first.listing = second.listing) : sections first = sections second := by
  have plain : ∀ processor : Processor,
      ∀ line ∈ (sections processor).flatMap Section.lines, OneLine line := by
    intro processor line member
    obtain ⟨part, inside, row⟩ := List.mem_flatMap.mp member
    exact Section.oneLine_of_mem_lines (plain_of_mem_sections inside) row
  rw [listing_eq_unlines, listing_eq_unlines, String.append_left_inj, String.append_right_inj]
    at same
  exact Section.flatMap_lines_injective rfl (fun _ => plain_of_mem_sections)
    (fun _ => plain_of_mem_sections) (unlines_injective (plain first) (plain second) same)

/-! The rows of every section tell what they show. -/

theorem rowsOf_words_injective {first second : List Nat}
    (same : rowsOf first words = rowsOf second words) (length_eq : first.length = second.length) :
    first = second :=
  rowsOf_injective (fun _ => words_injective) length_eq same

theorem literal_toNat_injective {first second : UInt16}
    (same : Hex.literal first.toNat = Hex.literal second.toNat) : first = second :=
  UInt16.toNat_inj.mp (Hex.literal_injective same)

theorem length_stackSlots (stack : CallStack) :
    (stackSlots stack).length = Layout.stackCapacity := by
  rw [stackSlots, List.length_append, stack.length_toList, List.length_replicate]
  exact Nat.add_sub_cancel' stack.bounded

theorem stackSlots_injective {first second : CallStack}
    (depth_eq : first.depth = second.depth) (same : stackSlots first = stackSlots second) :
    first = second := by
  have origins := (List.append_inj same
    (by rw [first.length_toList, second.length_toList, depth_eq])).1
  exact CallStack.ext_entries (List.reverse_inj.mp origins)

end Listing

namespace Processor

/-- Two processors have the same listing just if they differ in no more than the random source
and the way they shift. -/
theorem listing_eq_iff (first second : Processor) :
    first.listing = second.listing ↔
      first =
        { second with
          random := first.random
          machine :=
            { second.machine with shiftsInPlace := first.machine.shiftsInPlace } } := by
  constructor
  · intro same
    have parts := Listing.sections_injective same
    simp only [Listing.sections, List.cons.injEq, Listing.Section.mk.injEq, true_and,
      and_true] at parts
    obtain ⟨opcode, counter, index, depth, timers, memory, keys, stack, registers⟩ := parts
    have timers_eq := Listing.rowsOf_words_injective timers rfl
    simp only [List.cons.injEq, and_true, UInt8.toNat_inj] at timers_eq
    have memory_eq := Memory.rows_injective
      ((List.map_inj_right fun _ _ => Listing.memoryRow_injective).mp memory)
    have keys_eq := Vector.toList_inj.mp (Listing.rowsOf_injective Listing.flags_injective
      (by rw [Vector.length_toList, Vector.length_toList]) keys)
    have slots_eq := (List.map_inj_right fun _ _ => UInt16.toNat_inj.mp).mp
      (Listing.rowsOf_words_injective stack
        (by simp only [List.length_map, Listing.length_stackSlots]))
    have stack_eq := Listing.stackSlots_injective (Hex.literal_injective depth) slots_eq
    have registers_eq := Vector.toList_inj.mp
      ((List.map_inj_right fun _ _ => UInt8.toNat_inj.mp).mp
        (Listing.rowsOf_words_injective registers
          (by simp only [List.length_map, Vector.length_toList])))
    rcases first with ⟨_, ⟨_, _, _, _, _, ⟨_, _, _⟩, ⟨_⟩, _⟩, _⟩
    rcases second with ⟨_, ⟨_, _, _, _, _, ⟨_, _, _⟩, ⟨_⟩, _⟩, _⟩
    simp only [mk.injEq, Machine.mk.injEq, Clock.mk.injEq, Keypad.mk.injEq, and_true]
    exact ⟨Listing.literal_toNat_injective opcode, memory_eq, registers_eq,
      Listing.literal_toNat_injective index, Listing.literal_toNat_injective counter, stack_eq,
      timers_eq, keys_eq⟩
  · intro same
    rw [same]
    rfl

end Processor

end ChipEight
