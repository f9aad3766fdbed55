import RaceFarm.Proofs.Assembly.Session
import RaceFarm.Proofs.Variant.Naming

namespace RaceFarm

def Command.Runs (binary : String) : Command → Prop
  | .argv args => binary ∈ args
  | .shell line => ∃ words, binary ∈ words ∧ line = " ".intercalate words

theorem CheckerConfig.command_runs (c : CheckerConfig) (binary : String) :
    (c.command binary).Runs binary := by
  unfold command
  cases c.append with
  | none => simp [Command.Runs, arguments]
  | some text => exact ⟨_, by simp [arguments], rfl⟩

namespace Assembly

variable (base : String) (orders : List Order)

/-- The step at place `i` of the finished list was added by the order at place `k` of the session. -/
structure Adds (k : Nat) (order : Order) (i : Nat) (step : Step) : Prop where
  given : orders[k]? = some order
  lower : (before base orders k).steps.length ≤ i
  upper : i < (before base orders (k + 1)).steps.length
  found : ((start base).performAll orders).steps[i]? = some step

/-- The step at place `i` builds the binary of `v`, and the caller was told so. -/
def Builds (i : Nat) (v : Variant) : Prop :=
  ∃ k r b, Adds base orders k (.build r) i (buildStep b) ∧ r.build = .ok b ∧ b.variant = v ∧
    ((before base orders k).build r).2 = .ok b.product

def DeclaredBefore (k : Nat) (v : Variant) : Prop :=
  ∃ k' variants, k' < k ∧ orders[k']? = some (.prebuilt variants) ∧ v ∈ variants

/-- The step at place `i` tests a binary that is there by then. -/
structure Tests (k i : Nat) (step : Step) (v : Variant) (c : CheckerConfig) : Prop where
  kind : step.kind? = some .test
  command : step.command? = some (c.command (v.binaryPath base))
  runs : (c.command (v.binaryPath base)).Runs (v.binaryPath base)
  supported : c.frontend.supports v.os = true
  available : DeclaredBefore orders k v ∨ ∃ j < i, Builds base orders j v

variable {base orders}

theorem steps_prefix_finished (k : Nat) :
    (before base orders k).steps <+: ((start base).performAll orders).steps := by
  rw [← before_max_length k]
  exact before_steps_prefix (Nat.le_max_left k orders.length)

theorem finished_getElem? {k i : Nat} {step : Step}
    (present : (before base orders k).steps[i]? = some step) :
    ((start base).performAll orders).steps[i]? = some step := by
  have kept : (before base orders k).steps <+: ((start base).performAll orders).steps :=
    steps_prefix_finished k
  obtain ⟨rest, finished⟩ := kept
  rw [← finished, List.getElem?_append_left (List.getElem?_eq_some_iff.1 present).1, present]

theorem Adds.before_getElem? {k i : Nat} {order : Order} {step : Step}
    (added : Adds base orders k order i step) :
    (before base orders (k + 1)).steps[i]? = some step := by
  have present := List.getElem?_eq_getElem added.upper
  rw [present, ← added.found, finished_getElem? present]

theorem adds_of_steps_append {k : Nat} {order : Order} {step : Step}
    (given : orders[k]? = some order)
    (one : (before base orders (k + 1)).steps = (before base orders k).steps ++ [step]) :
    Adds base orders k order (before base orders k).steps.length step where
  given := given
  lower := Nat.le_refl _
  upper := by simp [one]
  found := finished_getElem? (k := k + 1) (by simp [one])

theorem exists_adds {k i : Nat} {step : Step}
    (present : (before base orders k).steps[i]? = some step) :
    ∃ k' order, Adds base orders k' order i step := by
  induction k with
  | zero => simp [before_zero, start] at present
  | succ k ih =>
    by_cases earlier : i < (before base orders k).steps.length
    · have kept : (before base orders k).steps <+: (before base orders (k + 1)).steps :=
        before_steps_prefix (Nat.le_succ k)
      obtain ⟨rest, grown⟩ := kept
      rw [← grown, List.getElem?_append_left earlier] at present
      exact ih present
    · cases given : orders[k]? with
      | none =>
        rw [before_succ_of_none given] at present
        exact absurd (List.getElem?_eq_some_iff.1 present).1 earlier
      | some order =>
        exact ⟨k, order, given, Nat.le_of_not_lt earlier, (List.getElem?_eq_some_iff.1 present).1,
          finished_getElem? present⟩

theorem declared_of_mem_prebuilt {k : Nat} {v : Variant}
    (declared : v ∈ (before base orders k).prebuilt) : DeclaredBefore orders k v := by
  induction k with
  | zero => simp [before_zero, start] at declared
  | succ k ih =>
    have weaken : DeclaredBefore orders k v → DeclaredBefore orders (k + 1) v :=
      fun ⟨k', variants, earlier, given, named⟩ =>
        ⟨k', variants, Nat.lt_succ_of_lt earlier, given, named⟩
    cases given : orders[k]? with
    | none =>
      rw [before_succ_of_none given] at declared
      exact weaken (ih declared)
    | some order =>
      rcases (before_effect given).mem_prebuilt declared with old | ⟨variants, rfl, named⟩
      · exact weaken (ih old)
      · exact ⟨k, variants, Nat.lt_succ_self k, given, named⟩

theorem perform_build_answer {a : Assembly} {r : BuildRequest} {built : BuiltVariant}
    (answered : (a.perform (.build r)).2 = .ok (some built)) : (a.build r).2 = .ok built := by
  simp only [perform] at answered
  cases answer : (a.build r).2 with
  | error error => simp [answer, Except.map] at answered
  | ok w => simpa [answer, Except.map] using answered

theorem builds_of_lookup {k : Nat} {v : Variant} {parameters : BuildParameters}
    (found : (before base orders k).built.lookup v = some parameters) :
    ∃ j < (before base orders k).steps.length, Builds base orders j v := by
  induction k with
  | zero => simp [before_zero, start] at found
  | succ k ih =>
    have kept : (before base orders k).steps <+: (before base orders (k + 1)).steps :=
      before_steps_prefix (Nat.le_succ k)
    cases given : orders[k]? with
    | none =>
      rw [before_succ_of_none given] at found ⊢
      exact ih found
    | some order =>
      rcases (before_effect given).lookup_built found with
        old | ⟨r, b, rfl, accepted, same, answered, one⟩
      · obtain ⟨j, earlier, builds⟩ := ih old
        exact ⟨j, Nat.lt_of_lt_of_le earlier kept.length_le, builds⟩
      · exact ⟨_, by simp [one], k, r, b, adds_of_steps_append given one, accepted, same,
          perform_build_answer answered⟩

theorem available_origin {k i : Nat} {v : Variant}
    (available : (before base orders k).isAvailable v = true)
    (later : (before base orders k).steps.length ≤ i) :
    DeclaredBefore orders k v ∨ ∃ j < i, Builds base orders j v := by
  simp only [isAvailable, Bool.or_eq_true, Option.isSome_iff_exists, List.contains_iff_mem]
    at available
  rcases available with ⟨parameters, found⟩ | declared
  · obtain ⟨j, earlier, builds⟩ := builds_of_lookup found
    exact .inr ⟨j, Nat.lt_of_lt_of_le earlier later, builds⟩
  · exact .inl (declared_of_mem_prebuilt declared)

theorem tests_of_accepts {k i : Nat} {v : Variant} {c : CheckerConfig} {pass : String}
    {invocation : Invocation} (accepted : (before base orders k).Accepts v c invocation)
    (later : (before base orders k).steps.length ≤ i) :
    Tests base orders k i (testStep base v c pass invocation) v c where
  kind := rfl
  command := by
    have invoked := accepted.invoked
    rw [before_base] at invoked
    obtain ⟨-, rfl⟩ := CheckerConfig.invoke_eq_ok_iff.1 invoked
    rfl
  runs := c.command_runs _
  supported := accepted.supported
  available := available_origin accepted.available later

theorem Adds.grows {k i : Nat} {order : Order} {step : Step}
    (added : Adds base orders k order i step) :
    before base orders (k + 1) ≠ before base orders k := by
  intro same
  have upper := added.upper
  rw [same] at upper
  exact Nat.not_lt.2 added.lower upper

theorem Adds.mem_new {k i : Nat} {order : Order} {step : Step} {new : List Step}
    (added : Adds base orders k order i step)
    (grown : (before base orders (k + 1)).steps = (before base orders k).steps ++ new) :
    step ∈ new := by
  have present := added.before_getElem?
  rw [grown, List.getElem?_append_right added.lower] at present
  exact List.mem_of_getElem? present

theorem Adds.test {k i : Nat} {v : Variant} {c : CheckerConfig} {step : Step}
    (added : Adds base orders k (.test v c) i step) : Tests base orders k i step v c := by
  have after : before base orders (k + 1) = ((before base orders k).addTest v c "").1 :=
    before_succ added.given
  rcases (before base orders k).addTest_cases v c "" with
    ⟨error, refused⟩ | ⟨invocation, accepted, pushed⟩
  · rw [refused] at after
    exact absurd after added.grows
  · rw [pushed, before_base] at after
    obtain rfl := List.mem_singleton.1 (added.mem_new (by rw [after]; rfl))
    exact tests_of_accepts accepted added.lower

theorem Adds.raceVerifier {k i : Nat} {v : Variant} {c : CheckerConfig} {verifier : RaceVerifier}
    {step : Step} (added : Adds base orders k (.raceVerifier v c verifier) i step) :
    Tests base orders k i step v (verifier.firstPass c) ∨
      Tests base orders k i step v (verifier.secondPass c) := by
  have after : before base orders (k + 1) =
      ((before base orders k).addRaceVerifier v c verifier).1 := before_succ added.given
  rcases (before base orders k).addRaceVerifier_cases v c verifier with
    ⟨error, refused⟩ | ⟨first, second, firstAccepted, secondAccepted, pushed⟩
  · rw [refused] at after
    exact absurd after added.grows
  · rw [pushed, before_base] at after
    have pass := added.mem_new (by rw [after]; rfl)
    simp only [List.mem_cons, List.not_mem_nil, or_false] at pass
    rcases pass with rfl | rfl
    · exact .inl (tests_of_accepts firstAccepted added.lower)
    · exact .inr (tests_of_accepts secondAccepted added.lower)

theorem Adds.build {k i : Nat} {r : BuildRequest} {step : Step}
    (added : Adds base orders k (.build r) i step) :
    ∃ b, r.build = .ok b ∧ step = buildStep b ∧ i = (before base orders k).steps.length ∧
      (before base orders k).built.lookup b.variant = none ∧
      (before base orders (k + 1)).built.lookup b.variant = some r.parameters ∧
      ((before base orders k).build r).2 = .ok b.product := by
  have after : before base orders (k + 1) = ((before base orders k).build r).1 :=
    before_succ added.given
  rcases (before base orders k).build_cases r with
    ⟨error, refused⟩ | ⟨b, -, -, cached⟩ | ⟨b, accepted, fresh, built⟩
  · rw [refused] at after
    exact absurd after added.grows
  · rw [cached] at after
    exact absurd after added.grows
  · rw [built] at after ⊢
    have upper := added.upper
    have lower := added.lower
    rw [after, addBuild, List.length_append, List.length_singleton] at upper
    obtain rfl := List.mem_singleton.1 (added.mem_new (by rw [after]; rfl))
    refine ⟨b, accepted, rfl, by omega, fresh, ?_, rfl⟩
    rw [after, addBuild_lookup _ fresh, if_pos rfl]

theorem variant_ne_of_later {k l i j : Nat} {r s : BuildRequest} {b d : Build} {step step' : Step}
    (first : Adds base orders k (.build r) i step) (second : Adds base orders l (.build s) j step')
    (later : k < l) (accepted : r.build = .ok b) (accepted' : s.build = .ok d) :
    b.variant ≠ d.variant := by
  obtain ⟨b', same, -, -, -, found, -⟩ := first.build
  obtain ⟨d', same', -, -, fresh, -⟩ := second.build
  obtain rfl : b = b' := Except.ok.inj (accepted.symm.trans same)
  obtain rfl : d = d' := Except.ok.inj (accepted'.symm.trans same')
  have kept := before_keeps_built later found
  intro collide
  rw [collide, fresh] at kept
  cases kept

theorem variant_ne_of_ne {k l i j : Nat} {r s : BuildRequest} {b d : Build} {step step' : Step}
    (first : Adds base orders k (.build r) i step) (second : Adds base orders l (.build s) j step')
    (apart : i ≠ j) (accepted : r.build = .ok b) (accepted' : s.build = .ok d) :
    b.variant ≠ d.variant := by
  rcases Nat.lt_trichotomy k l with later | rfl | earlier
  · exact variant_ne_of_later first second later accepted accepted'
  · obtain ⟨-, -, -, here, -⟩ := first.build
    obtain ⟨-, -, -, here', -⟩ := second.build
    exact absurd (here.trans here'.symm) apart
  · exact (variant_ne_of_later second first earlier accepted' accepted).symm

variable (base orders)

/-- What can be said of the steps that a session leaves behind, whatever its orders. -/
structure Traceable : Prop where
  origin : ∀ (i : Nat) (step : Step), ((start base).performAll orders).steps[i]? = some step →
    ∃ k order, Adds base orders k order i step
  test : ∀ k v c i step, Adds base orders k (.test v c) i step → Tests base orders k i step v c
  raceVerifier : ∀ k v c verifier i step,
    Adds base orders k (.raceVerifier v c verifier) i step →
      Tests base orders k i step v (verifier.firstPass c) ∨
        Tests base orders k i step v (verifier.secondPass c)
  build : ∀ k r i step, Adds base orders k (.build r) i step →
    ∃ b, r.build = .ok b ∧ step = buildStep b ∧ Builds base orders i b.variant
  distinct : ∀ k l r s i j step step', Adds base orders k (.build r) i step →
    Adds base orders l (.build s) j step' → i ≠ j →
      ∀ b d, r.build = .ok b → s.build = .ok d →
        b.variant ≠ d.variant ∧ b.variant.artifactName base ≠ d.variant.artifactName base

/-- Every test in a list runs a binary that came from elsewhere or was built earlier in the list,
    and no two builds make the same one. -/
theorem performAll_traceable : Traceable base orders where
  origin i step present := by
    rw [← before_of_length_le (Nat.le_refl orders.length)] at present
    exact exists_adds present
  test _ _ _ _ _ := Adds.test
  raceVerifier _ _ _ _ _ _ := Adds.raceVerifier
  build k r i step added := by
    obtain ⟨b, accepted, rfl, -, -, -, answered⟩ := added.build
    exact ⟨b, accepted, rfl, k, r, b, added, accepted, rfl, answered⟩
  distinct k l r s i j step step' first second apart b d accepted accepted' := by
    have differ := variant_ne_of_ne first second apart accepted accepted'
    exact ⟨differ, fun same => differ (Variant.artifactName_inj same)⟩

end Assembly

end RaceFarm
