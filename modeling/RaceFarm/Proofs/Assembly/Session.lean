import RaceFarm.Proofs.Assembly.Calls

namespace RaceFarm.Assembly

/-- Everything that an order can do. -/
inductive Effect (a : Assembly) : Order → Assembly → Except ConfigError (Option BuiltVariant) → Prop where
  | refused {order : Order} {error : ConfigError} : Effect a order a (.error error)
  | step (s : Step) : Effect a (.step s) (a.addSteps [s]) (.ok none)
  | prebuilt (variants : List Variant) : Effect a (.prebuilt variants) (a.declare variants) (.ok none)
  | cached {r : BuildRequest} {b : Build} (accepted : r.build = .ok b)
      (found : a.built.lookup b.variant = some r.parameters) :
      Effect a (.build r) a (.ok (some b.product))
  | built {r : BuildRequest} {b : Build} (accepted : r.build = .ok b)
      (fresh : a.built.lookup b.variant = none) :
      Effect a (.build r) (a.addBuild b r.parameters) (.ok (some b.product))
  | test {v : Variant} {c : CheckerConfig} {i : Invocation} (accepted : a.Accepts v c i) :
      Effect a (.test v c) (a.addSteps [testStep a.base v c "" i]) (.ok none)
  | raceVerifier {v : Variant} {c : CheckerConfig} {verifier : RaceVerifier}
      {first second : Invocation} (firstAccepted : a.Accepts v (verifier.firstPass c) first)
      (secondAccepted : a.Accepts v (verifier.secondPass c) second) :
      Effect a (.raceVerifier v c verifier)
        (a.addSteps [testStep a.base v (verifier.firstPass c) " RV 1st pass" first,
          testStep a.base v (verifier.secondPass c) " RV 2nd pass" second]) (.ok none)
  | toolTests (first : String) (others : List String) :
      Effect a (.toolTests (first :: others)) (a.addSteps (Step.toolTests first others)) (.ok none)

variable (a : Assembly)

theorem perform_effect (order : Order) :
    a.Effect order (a.perform order).1 (a.perform order).2 := by
  cases order with
  | step s => exact .step s
  | prebuilt variants => exact .prebuilt variants
  | build r =>
    rcases a.build_cases r with
      ⟨error, refused⟩ | ⟨b, accepted, found, cached⟩ | ⟨b, accepted, fresh, built⟩
    · simp only [perform, refused]
      exact .refused
    · simp only [perform, cached]
      exact .cached accepted found
    · simp only [perform, built]
      exact .built accepted fresh
  | test v c =>
    rcases a.addTest_cases v c "" with ⟨error, refused⟩ | ⟨i, accepted, added⟩
    · simp only [perform, refused]
      exact .refused
    · simp only [perform, added]
      exact .test accepted
  | raceVerifier v c verifier =>
    rcases a.addRaceVerifier_cases v c verifier with
      ⟨error, refused⟩ | ⟨first, second, firstAccepted, secondAccepted, added⟩
    · simp only [perform, refused]
      exact .refused
    · simp only [perform, added]
      exact .raceVerifier firstAccepted secondAccepted
  | toolTests targets =>
    rcases a.addToolTests_cases targets with ⟨-, refused⟩ | ⟨first, others, rfl, added⟩
    · simp only [perform, refused]
      exact .refused
    · simp only [perform, added]
      exact .toolTests first others

namespace Effect

variable {a after : Assembly} {order : Order} {answer : Except ConfigError (Option BuiltVariant)}

theorem base_eq (effect : a.Effect order after answer) : after.base = a.base := by
  cases effect <;> rfl

theorem steps_prefix (effect : a.Effect order after answer) : a.steps <+: after.steps := by
  cases effect with
  | refused => exact List.prefix_rfl
  | cached => exact List.prefix_rfl
  | prebuilt => exact List.prefix_rfl
  | _ => exact List.prefix_append _ _

theorem mem_prebuilt (effect : a.Effect order after answer) {v : Variant}
    (declared : v ∈ after.prebuilt) :
    v ∈ a.prebuilt ∨ ∃ variants, order = .prebuilt variants ∧ v ∈ variants := by
  cases effect with
  | prebuilt variants =>
    rcases List.mem_append.1 declared with earlier | now
    · exact .inl earlier
    · exact .inr ⟨variants, rfl, now⟩
  | _ => exact .inl declared

theorem lookup_built (effect : a.Effect order after answer) {v : Variant}
    {parameters : BuildParameters} (found : after.built.lookup v = some parameters) :
    a.built.lookup v = some parameters ∨
      ∃ r b, order = .build r ∧ r.build = .ok b ∧ b.variant = v ∧
        answer = .ok (some b.product) ∧ after.steps = a.steps ++ [buildStep b] := by
  cases effect with
  | @built r b accepted fresh =>
    rw [a.addBuild_lookup fresh] at found
    by_cases same : v = b.variant
    · exact .inr ⟨r, b, rfl, accepted, same.symm, rfl, rfl⟩
    · rw [if_neg same] at found
      exact .inl found
  | _ => exact .inl found

theorem keeps_built (effect : a.Effect order after answer) {v : Variant}
    {parameters : BuildParameters} (found : a.built.lookup v = some parameters) :
    after.built.lookup v = some parameters := by
  cases effect with
  | built => rw [addBuild, List.lookup_append, found, Option.some_or]
  | _ => exact found

end Effect

/-- The assembly that the first `count` orders leave behind. -/
def before (base : String) (orders : List Order) (count : Nat) : Assembly :=
  (start base).performAll (orders.take count)

variable {base : String} {orders : List Order}

theorem before_zero : before base orders 0 = start base := rfl

theorem before_succ {k : Nat} {order : Order} (given : orders[k]? = some order) :
    before base orders (k + 1) = ((before base orders k).perform order).1 := by
  rw [before, List.take_add_one, given, performAll, List.foldl_append]
  rfl

theorem before_succ_of_none {k : Nat} (past : orders[k]? = none) :
    before base orders (k + 1) = before base orders k := by
  rw [before, List.take_add_one, past, Option.toList_none, List.append_nil]
  rfl

theorem before_of_length_le {k : Nat} (past : orders.length ≤ k) :
    before base orders k = (start base).performAll orders := by
  rw [before, List.take_of_length_le past]

theorem before_max_length (k : Nat) :
    before base orders (max k orders.length) = (start base).performAll orders :=
  before_of_length_le (Nat.le_max_right k orders.length)

theorem before_effect {k : Nat} {order : Order} (given : orders[k]? = some order) :
    (before base orders k).Effect order (before base orders (k + 1))
      ((before base orders k).perform order).2 := by
  rw [before_succ given]
  exact perform_effect _ order

theorem before_keeps {P : Assembly → Prop}
    (kept : ∀ a order after answer, Effect a order after answer → P a → P after)
    {k l : Nat} (earlier : k ≤ l) (holds : P (before base orders k)) :
    P (before base orders l) := by
  induction earlier with
  | refl => exact holds
  | @step l _ ih =>
    cases given : orders[l]? with
    | none => rwa [before_succ_of_none given]
    | some order => exact kept _ _ _ _ (before_effect given) ih

theorem before_base (k : Nat) : (before base orders k).base = base :=
  before_keeps (P := (·.base = base)) (fun _ _ _ _ effect same => effect.base_eq.trans same)
    (Nat.zero_le k) rfl

theorem before_steps_prefix {k l : Nat} (earlier : k ≤ l) :
    (before base orders k).steps <+: (before base orders l).steps :=
  before_keeps (P := ((before base orders k).steps <+: ·.steps))
    (fun _ _ _ _ effect sofar => sofar.trans effect.steps_prefix) earlier List.prefix_rfl

theorem before_keeps_built {k l : Nat} (earlier : k ≤ l) {v : Variant}
    {parameters : BuildParameters}
    (found : (before base orders k).built.lookup v = some parameters) :
    (before base orders l).built.lookup v = some parameters :=
  before_keeps (P := (·.built.lookup v = some parameters))
    (fun _ _ _ _ effect => effect.keeps_built) earlier found

end RaceFarm.Assembly
