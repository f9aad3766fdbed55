import RaceFarm.Variant.Naming

namespace RaceFarm

theorem Os.name_append_inj {os os' : Os} {rest rest' : List Char}
    (same : os.name.toList ++ rest = os'.name.toList ++ rest') : os = os' ∧ rest = rest' := by
  cases os <;> cases os' <;> simp_all [Os.name]

theorem Os.name_inj {os os' : Os} (same : os.name = os'.name) : os = os' :=
  (Os.name_append_inj (congrArg (·.toList ++ []) same)).1

theorem Bits.arch_append_inj {bits bits' : Bits} {rest rest' : List Char}
    (same : bits.arch.toList ++ rest = bits'.arch.toList ++ rest') :
    bits = bits' ∧ rest = rest' := by
  cases bits <;> cases bits' <;> simp_all [Bits.arch]

theorem Bits.arch_inj {bits bits' : Bits} (same : bits.arch = bits'.arch) : bits = bits' :=
  (Bits.arch_append_inj (congrArg (·.toList ++ []) same)).1

theorem Bits.width_append_inj {bits bits' : Bits} {rest rest' : List Char}
    (same : (toString bits.width).toList ++ rest = (toString bits'.width).toList ++ rest') :
    bits = bits' ∧ rest = rest' := by
  have narrow : (toString 32).toList = ['3', '2'] := by decide
  have wide : (toString 64).toList = ['6', '4'] := by decide
  cases bits <;> cases bits' <;> simp_all [Bits.width]

theorem OptLevel.level_append_inj {opt opt' : OptLevel} {rest rest' : List Char}
    (same : (toString opt.level).toList ++ rest = (toString opt'.level).toList ++ rest') :
    opt = opt' ∧ rest = rest' := by
  have zero : (toString 0).toList = ['0'] := by decide
  have one : (toString 1).toList = ['1'] := by decide
  cases opt <;> cases opt' <;> simp_all [OptLevel.level]

theorem OptLevel.level_inj {opt opt' : OptLevel} (same : toString opt.level = toString opt'.level) :
    opt = opt' :=
  (OptLevel.level_append_inj (congrArg (·.toList ++ []) same)).1

namespace Suffix

variable (suffix : Suffix)

theorem text_ne_empty : suffix.text.toList ≠ [] := by
  intro empty
  have accepted := suffix.accepted
  simp [accepts, empty] at accepted

theorem text_ne_of_head {letter : Char} (other : letter ≠ '-') (rest : List Char) :
    suffix.text.toList ≠ letter :: rest := by
  intro spelled
  have accepted := suffix.accepted
  simp [accepts, spelled, other] at accepted

/-- The rule for tags keeps them apart from the marker of static linkage. -/
theorem text_ne_static (rest : List Char) : suffix.text.toList ≠ "-static".toList ++ rest := by
  intro marked
  have accepted := suffix.accepted
  simp [accepts, marked] at accepted

theorem text_inj {suffix suffix' : Suffix} (same : suffix.text = suffix'.text) :
    suffix = suffix' := by
  cases suffix
  cases suffix'
  cases same
  rfl

/-- A spelling of tags that is never empty tells no tag from every tag. -/
theorem spelled_inj {spell : Suffix → List Char} (filled : ∀ suffix, spell suffix ≠ [])
    (inj : ∀ suffix suffix', spell suffix = spell suffix' → suffix = suffix')
    {a b : Option Suffix} (same : a.elim [] spell = b.elim [] spell) : a = b := by
  cases a with
  | none =>
    cases b with
    | none => rfl
    | some suffix' => exact absurd same.symm (filled suffix')
  | some suffix =>
    cases b with
    | none => exact absurd same (filled suffix)
    | some suffix' => rw [inj suffix suffix' same]

end Suffix

/-- A mark in front of a text can be told from the text, unless the text begins with it. -/
theorem marked_inj {mark text text' : List Char} {marked marked' : Bool}
    (apart : ∀ rest, text ≠ mark ++ rest) (apart' : ∀ rest, text' ≠ mark ++ rest)
    (same : (if marked then mark else []) ++ text = (if marked' then mark else []) ++ text') :
    marked = marked' ∧ text = text' := by
  cases marked with
  | false =>
    cases marked' with
    | false => exact ⟨rfl, same⟩
    | true => exact absurd same (apart _)
  | true =>
    cases marked' with
    | false => exact absurd same.symm (apart' _)
    | true => exact ⟨rfl, List.append_cancel_left same⟩

attribute [ext] Variant

namespace Variant

def tag (v : Variant) : List Char :=
  v.suffix.elim [] (·.text.toList)

def marks (v : Variant) : List Char :=
  (if v.static then "-static".toList else []) ++ v.tag

def extension (v : Variant) : List Char :=
  if v.os = .windows then ".exe".toList else []

variable {v w : Variant}

theorem tag_inj (same : v.tag = w.tag) : v.suffix = w.suffix :=
  Suffix.spelled_inj Suffix.text_ne_empty
    (fun _ _ same => Suffix.text_inj (String.toList_inj.1 same)) same

theorem tag_ne_static (v : Variant) (rest : List Char) : v.tag ≠ "-static".toList ++ rest := by
  rw [tag]
  cases v.suffix with
  | none => simp
  | some suffix => exact suffix.text_ne_static rest

theorem marks_inj (same : v.marks = w.marks) : v.static = w.static ∧ v.suffix = w.suffix := by
  obtain ⟨static, tag⟩ := marked_inj v.tag_ne_static w.tag_ne_static same
  exact ⟨static, tag_inj tag⟩

theorem artifactName_toList (v : Variant) (base : String) :
    (v.artifactName base).toList =
      base.toList ++ '-' :: (v.os.name.toList ++ '-' :: (v.bits.arch.toList ++
        '-' :: 'O' :: ((toString v.opt.level).toList ++ (v.marks ++ v.extension)))) := by
  rw [artifactName, marks, extension, tag]
  cases v.static <;> cases v.suffix <;> by_cases windows : v.os = .windows <;> simp [windows]

/-- Builds of different variants never overwrite each other. -/
theorem artifactName_inj {base : String} (same : v.artifactName base = w.artifactName base) :
    v = w := by
  have spelled := congrArg String.toList same
  rw [artifactName_toList, artifactName_toList, List.append_cancel_left_eq, List.cons.injEq]
    at spelled
  obtain ⟨os, spelled⟩ := Os.name_append_inj spelled.2
  obtain ⟨bits, spelled⟩ := Bits.arch_append_inj (List.cons.inj spelled).2
  obtain ⟨opt, spelled⟩ := OptLevel.level_append_inj (List.cons.inj (List.cons.inj spelled).2).2
  have extensions : v.extension = w.extension := by rw [extension, extension, os]
  rw [extensions] at spelled
  -- The system is known by now, so both names end in the same extension.
  obtain ⟨static, suffix⟩ := marks_inj (List.append_cancel_right spelled)
  exact Variant.ext os bits opt static suffix

theorem binaryPath_inj {base : String} (same : v.binaryPath base = w.binaryPath base) : v = w := by
  have spelled := congrArg String.toList same
  rw [binaryPath, binaryPath, String.toList_append, String.toList_append] at spelled
  exact artifactName_inj (String.toList_inj.1 (List.append_cancel_left spelled))

/-- The tag as a description lists it. -/
def item (v : Variant) : List Char :=
  v.suffix.elim [] (',' :: ·.text.toList)

def items (v : Variant) : List Char :=
  (if v.static then ",static".toList else []) ++ v.item

theorem item_ne_static (v : Variant) (rest : List Char) : v.item ≠ ",static".toList ++ rest := by
  rw [item]
  cases v.suffix with
  | none => simp
  | some suffix =>
    intro listed
    exact suffix.text_ne_of_head (by decide) _ (List.cons.inj listed).2

theorem item_inj (same : v.item = w.item) : v.suffix = w.suffix :=
  Suffix.spelled_inj (fun _ => List.cons_ne_nil _ _)
    (fun _ _ same => Suffix.text_inj (String.toList_inj.1 (List.cons.inj same).2)) same

theorem items_inj (same : v.items = w.items) : v.static = w.static ∧ v.suffix = w.suffix := by
  obtain ⟨static, item⟩ := marked_inj v.item_ne_static w.item_ne_static same
  exact ⟨static, item_inj item⟩

theorem describe_toList (v : Variant) :
    v.describe.toList =
      '(' :: (v.os.name.toList ++ ',' :: ((toString v.bits.width).toList ++
        ',' :: 'O' :: ((toString v.opt.level).toList ++ (v.items ++ [')'])))) := by
  rw [describe, items, item]
  cases v.static <;> cases v.suffix <;> simp

theorem describe_inj (same : v.describe = w.describe) : v = w := by
  have spelled := congrArg String.toList same
  rw [describe_toList, describe_toList] at spelled
  obtain ⟨os, spelled⟩ := Os.name_append_inj (List.cons.inj spelled).2
  obtain ⟨bits, spelled⟩ := Bits.width_append_inj (List.cons.inj spelled).2
  obtain ⟨opt, spelled⟩ := OptLevel.level_append_inj (List.cons.inj (List.cons.inj spelled).2).2
  obtain ⟨static, suffix⟩ := items_inj (List.append_cancel_right spelled)
  exact Variant.ext os bits opt static suffix

/-- Whatever tags they carry, variants share a name of any kind only if they are the same. -/
theorem names_identify (base : String) (v w : Variant) :
    (v.artifactName base = w.artifactName base ↔ v = w) ∧
    (v.binaryPath base = w.binaryPath base ↔ v = w) ∧
    (v.describe = w.describe ↔ v = w) :=
  ⟨⟨artifactName_inj, congrArg (artifactName · base)⟩,
    ⟨binaryPath_inj, congrArg (binaryPath · base)⟩,
    ⟨describe_inj, congrArg describe⟩⟩

end Variant

end RaceFarm
