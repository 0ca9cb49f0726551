/-
Documents of one table, line by line: a header and under it keys with their scalars.  Each line
is read as the statement it was written for, and the statements make the table with its entries
in the order of the lines.
-/
import FolderScript.Proofs.Toml.Writing

namespace FolderScript.Toml

/-- A key that needs no quotes. -/
structure IsBareKey (key : String) : Prop where
  ne_nil : key.toList ≠ []
  bare : key.toList.all isBare = true

section

variable {key : String} {stop : Char} {rest : List Char}

theorem IsBareKey.isBare_of_mem (h : IsBareKey key) : ∀ char ∈ key.toList, isBare char = true :=
  List.all_eq_true.mp h.bare

theorem IsBareKey.opens (h : IsBareKey key) :
    ∃ first others, key.toList = first :: others ∧ isBare first = true := by
  obtain ⟨first, others, hkey⟩ := List.exists_cons_of_ne_nil h.ne_nil
  exact ⟨first, others, hkey, h.isBare_of_mem first (hkey ▸ List.mem_cons_self)⟩

theorem isSpace_of_isBare {char : Char} (h : isBare char = true) : isSpace char = false :=
  isSpace_of_class h (by decide) (by decide)

theorem skipSpaces_cons {first : Char} (h : isSpace first = false) (rest : List Char) :
    skipSpaces (first :: rest) = first :: rest :=
  List.dropWhile_cons_of_neg (by simp [h])

theorem simpleKey_bare (hkey : IsBareKey key) (hstop : isBare stop = false) :
    simpleKey (key.toList ++ stop :: rest) = some (key, stop :: rest) := by
  have hname : (key.toList ++ stop :: rest).takeWhile isBare = key.toList := by
    rw [List.takeWhile_append_of_pos hkey.isBare_of_mem, List.takeWhile_cons_of_neg (by simp [hstop]),
      List.append_nil]
  have hafter : (key.toList ++ stop :: rest).dropWhile isBare = stop :: rest := by
    rw [List.dropWhile_append_of_pos hkey.isBare_of_mem, List.dropWhile_cons_of_neg (by simp [hstop])]
  have hline : lineString (key.toList ++ stop :: rest) = none := by
    obtain ⟨first, others, hfirst, hbare⟩ := hkey.opens
    rw [hfirst, List.cons_append, lineString]
    · exact fun _ heq => ne_of_class hbare (by decide) (List.cons.inj heq).1
    · exact fun _ heq => ne_of_class hbare (by decide) (List.cons.inj heq).1
  rw [simpleKey, hline]
  dsimp only
  rw [hname, hafter]
  split
  · rename_i hnil
    exact absurd hnil hkey.ne_nil
  · rw [String.ofList_toList]

/-- A key without dots is one part. -/
theorem dottedKey_bare (hkey : IsBareKey key) (hstop : isBare stop = false)
    (hdot : (skipSpaces (stop :: rest)).head? ≠ some '.') :
    dottedKey (key.toList ++ stop :: rest) = some (([], key), stop :: rest) := by
  have hmore : moreKeys ((stop :: rest).length + 1) (stop :: rest) = some ([], stop :: rest) := by
    rw [moreKeys]
    split
    · rename_i heq
      exact absurd (congrArg List.head? heq) hdot
    · rfl
  rw [dottedKey, simpleKey_bare hkey hstop]
  dsimp only
  rw [hmore]
  rfl

end

/-- A line is read as a statement, whatever comes after it. -/
structure States (line : List Char) (said : Statement) : Prop where
  opens : ∃ first others, line = first :: others ∧ (first = '[' ∨ isBare first = true)
  reads : ∀ rest, statement (line ++ '\n' :: rest) = some (said, '\n' :: rest)

def headerLine (name : String) : List Char := '[' :: (name.toList ++ [']'])

def assignmentLine (key : String) (chars : List Char) : List Char :=
  key.toList ++ (' ' :: '=' :: ' ' :: chars)

theorem states_headerLine {name : String} (h : IsBareKey name) :
    States (headerLine name) (.openTable [] name) where
  opens := ⟨_, _, rfl, .inl rfl⟩
  reads rest := by
    obtain ⟨first, others, hname, hbare⟩ := h.opens
    have hkey : dottedKey (name.toList ++ ']' :: '\n' :: rest) =
        some (([], name), ']' :: '\n' :: rest) :=
      dottedKey_bare h (by decide) (by simp [skipSpaces, isSpace])
    have hskip : skipSpaces (name.toList ++ ']' :: '\n' :: rest) =
        name.toList ++ ']' :: '\n' :: rest := by
      rw [hname, List.cons_append, skipSpaces_cons (isSpace_of_isBare hbare)]
    rw [headerLine, List.cons_append, List.append_assoc, List.singleton_append, statement, header]
    · rw [hskip, hkey]
      rfl
    · rintro after heq
      rw [hname] at heq
      exact ne_of_class hbare (by decide) (List.cons.inj heq).1

theorem states_assignmentLine {key : String} {chars : List Char} {scalar : Scalar}
    (hkey : IsBareKey key) (h : Spells chars scalar) :
    States (assignmentLine key chars) (.assign [] key (.scalar scalar)) where
  opens := by
    obtain ⟨first, others, hfirst, hbare⟩ := hkey.opens
    exact ⟨first, others ++ (' ' :: '=' :: ' ' :: chars), by rw [assignmentLine, hfirst]; rfl,
      .inr hbare⟩
  reads rest := by
    obtain ⟨first, others, hchars, hspace, -⟩ := h.opens
    have hparts : dottedKey (key.toList ++ ' ' :: '=' :: ' ' :: (chars ++ '\n' :: rest)) =
        some (([], key), ' ' :: '=' :: ' ' :: (chars ++ '\n' :: rest)) :=
      dottedKey_bare hkey (by decide) (by simp [skipSpaces, isSpace])
    have hequals : skipSpaces (' ' :: '=' :: ' ' :: (chars ++ '\n' :: rest)) =
        '=' :: ' ' :: (chars ++ '\n' :: rest) := rfl
    have hskip : skipSpaces (' ' :: (chars ++ '\n' :: rest)) = chars ++ '\n' :: rest := by
      rw [hchars]
      exact skipSpaces_cons hspace _
    have hpair : pair (value nestingLimit) (assignmentLine key chars ++ '\n' :: rest) =
        some (([], key, .scalar scalar), '\n' :: rest) := by
      rw [assignmentLine, List.append_assoc, pair]
      simp only [List.cons_append]
      rw [hparts]
      dsimp only
      rw [hequals]
      simp only [hskip, h.value, Option.map_some]
    rw [statement, hpair]
    · rfl
    · intro after heq
      obtain ⟨first, others, hfirst, hbare⟩ := hkey.opens
      rw [assignmentLine, hfirst] at heq
      exact ne_of_class hbare (by decide) (List.cons.inj heq).1

def ended (lines : List (List Char)) : List Char := lines.flatMap fun line => line ++ ['\n']

section

variable {line : List Char} {lines : List (List Char)} {said : Statement}
  {found : List Statement}

theorem skipTrivia_states (h : States line said) (fuel : Nat) (rest : List Char) :
    skipTrivia fuel (line ++ rest) = some (line ++ rest) := by
  obtain ⟨first, others, rfl, hfirst⟩ := h.opens
  cases fuel with
  | zero => rfl
  | succ fuel =>
      have hne : ∀ char, isBare char = false → char ≠ '[' → first ≠ char := by
        rintro char hbare hbracket rfl
        rcases hfirst with hfirst | hfirst
        · exact hbracket hfirst
        · exact ne_of_class hfirst hbare rfl
      have hspace : isSpace first = false := by
        rcases hfirst with rfl | hfirst
        · decide
        · exact isSpace_of_isBare hfirst
      have hcomment : first ≠ '#' := hne _ (by decide) (by decide)
      have hline : atNewline (first :: (others ++ rest)) = false := by
        rw [atNewline]
        · exact fun _ heq => hne _ (by decide) (by decide) (List.cons.inj heq).1
        · exact fun _ heq => hne _ (by decide) (by decide) (List.cons.inj heq).1
      rw [List.cons_append, skipTrivia]
      simp [hspace, hcomment, hline]

/-- Lines are read as statements one after the other. -/
theorem statements_ended (h : List.Forall₂ States lines found) {fuel : Nat}
    (hfuel : lines.length < fuel) : statements fuel (ended lines) = some found := by
  induction h generalizing fuel with
  | nil =>
      obtain ⟨less, rfl⟩ := Nat.exists_eq_add_one.mpr hfuel
      rfl
  | @cons line said lines found hline hlines ih =>
      obtain ⟨less, rfl⟩ := Nat.exists_eq_add_one.mpr (Nat.zero_lt_of_lt hfuel)
      have hended : ended (line :: lines) = line ++ '\n' :: ended lines := by
        rw [ended, List.flatMap_cons, List.append_assoc]
        rfl
      obtain ⟨first, others, hfirst, -⟩ := hline.opens
      rw [statements, hended, skipTrivia_states hline, hfirst, List.cons_append]
      dsimp only
      rw [← List.cons_append, ← hfirst, hline.reads]
      dsimp only
      have hend : endLine ('\n' :: ended lines) = some (ended lines) := rfl
      rw [hend]
      dsimp only
      rw [ih (Nat.lt_of_succ_lt_succ hfuel)]
      rfl

theorem length_le_length_ended (lines : List (List Char)) :
    lines.length ≤ (ended lines).length := by
  induction lines with
  | nil => exact Nat.le_refl 0
  | cons line lines ih =>
      simp only [ended, List.flatMap_cons, List.length_append, List.length_cons] at ih ⊢
      omega

theorem parse?_ended (h : List.Forall₂ States lines found) :
    parse? (String.ofList (ended lines)) = Entries.ofStatements? found := by
  have hmark : dropMark (ended lines) = ended lines := by
    cases h with
    | nil => rfl
    | cons hline hlines =>
        obtain ⟨first, others, rfl, hfirst⟩ := hline.opens
        rw [ended, List.flatMap_cons, List.cons_append, List.cons_append, dropMark]
        rintro rest heq
        obtain rfl := (List.cons.inj heq).1
        rcases hfirst with hfirst | hfirst <;> contradiction
  have hfuel := Nat.lt_succ_of_le (length_le_length_ended lines)
  rw [parse?, String.toList_ofList, hmark, statements_ended h hfuel]
  rfl

end

section

variable {entries : Entries} {key name : String} {value : Value}

theorem Entries.addNew_of_notMem (h : key ∉ entries.keys) :
    addNew key value entries = some (entries ++ [(key, value)]) := by
  induction entries with
  | nil => rfl
  | cons entry rest ih =>
      obtain ⟨other, found⟩ := entry
      obtain ⟨hne, hrest⟩ := not_or.mp (mt List.mem_cons.mpr h)
      have hadd : alter key _ rest = some (rest ++ [(key, value)]) := ih hrest
      rw [addNew, alter, if_neg (Ne.symm hne), hadd]
      rfl

/-- The draft of a document with one table, which its header has opened. -/
def Draft.ofTable (name : String) (entries : Entries) : Draft :=
  ⟨[(name, .table .header entries)], [name]⟩

theorem Draft.execute_openTable (name : String) :
    Draft.execute {} (.openTable [] name) = some (ofTable name []) := rfl

theorem Draft.execute_assign (h : key ∉ entries.keys) :
    (ofTable name entries).execute (.assign [] key value) =
      some (ofTable name (entries ++ [(key, value)])) := by
  have hassign : entries.assign [] key value = some (entries ++ [(key, value)]) :=
    Entries.addNew_of_notMem h
  simp [execute, ofTable, Entries.within, Entries.alter, hassign]

/-- What assigns values to keys, one after the other. -/
def Statement.ofEntry (entry : String × Value) : Statement := .assign [] entry.1 entry.2

/-- Assignments to keys that stand once give the table its entries in order. -/
theorem Draft.foldlM_execute_ofEntry {others : Entries}
    (h : (Entries.keys (entries ++ others)).Nodup) :
    (others.map Statement.ofEntry).foldlM execute (ofTable name entries) =
      some (ofTable name (entries ++ others)) := by
  induction others generalizing entries with
  | nil => rw [List.append_nil]; rfl
  | cons entry others ih =>
      have hsplit : entries ++ entry :: others = (entries ++ [entry]) ++ others := by simp
      have hnew : entry.1 ∉ entries.keys := by
        rw [Entries.keys, List.map_append, List.map_cons] at h
        exact fun hmem => List.disjoint_of_nodup_append h hmem List.mem_cons_self
      rw [List.map_cons, List.foldlM_cons, Statement.ofEntry, execute_assign hnew, hsplit]
      exact ih (hsplit ▸ h)

/-- The document of a table of scalars is the one whose lines were written. -/
theorem parse?_table {name : String} {lines : List (List Char)} (hname : IsBareKey name)
    (hkeys : entries.keys.Nodup)
    (hlines : List.Forall₂ States lines (entries.map Statement.ofEntry)) :
    parse? (String.ofList (ended (headerLine name :: lines))) =
      some [(name, .table .header entries)] := by
  rw [parse?_ended (.cons (states_headerLine hname) hlines), Entries.ofStatements?,
    List.foldlM_cons, Draft.execute_openTable]
  have hentries : (entries.map Statement.ofEntry).foldlM Draft.execute (Draft.ofTable name []) =
      some (Draft.ofTable name entries) := Draft.foldlM_execute_ofEntry hkeys
  exact congrArg (Option.map Draft.entries) hentries

end

end FolderScript.Toml
