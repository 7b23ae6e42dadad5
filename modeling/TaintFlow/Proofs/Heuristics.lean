import TaintFlow.Heuristics
import TaintFlow.Proofs.Json.Record

/-!
# Heuristics that are read

The nine bounds are read alike, so `Heuristics.Bound` names them, with the key, the value and the
change of each.  Every bound takes the value that the configuration gives under its key and else
keeps its own: `Heuristics.Bound.Takes` says so of one bound, and `Heuristics.takes_of_setMembers`
of all of them after any number of members.

The collapse depth is lowered afterwards, to the least of itself and the two sizes of the paths of
propagations (`Heuristics.value_enforceConsistency`), and a warning tells when it was
(`Heuristics.warnsOfDepth_enforceConsistency_iff`).  What comes of that is consistent, so it is read
back as it is.
-/

namespace TaintFlow.Heuristics

/-! ## The bounds -/

/-- The bounds, by the place of each in the record. -/
inductive Bound where
  | wideningHeight
  | generationPortSize
  | parameterSourcePortSize
  | sinkPortSize
  | callEffectSourcePortSize
  | callEffectSinkPortSize
  | propagationInputPathSize
  | propagationOutputPathSize
  | collapseDepth
  deriving DecidableEq

namespace Bound

/-- Every bound, in the order of the record. -/
def all : List Bound :=
  [.wideningHeight, .generationPortSize, .parameterSourcePortSize, .sinkPortSize,
    .callEffectSourcePortSize, .callEffectSinkPortSize, .propagationInputPathSize,
    .propagationOutputPathSize, .collapseDepth]

/-- The name of a bound in a configuration. -/
def key : Bound → String
  | .wideningHeight => "source_sink_tree_widening_height"
  | .generationPortSize => "generation_max_port_size"
  | .parameterSourcePortSize => "parameter_source_max_port_size"
  | .sinkPortSize => "sink_max_port_size"
  | .callEffectSourcePortSize => "call_effect_source_max_port_size"
  | .callEffectSinkPortSize => "call_effect_sink_max_port_size"
  | .propagationInputPathSize => "propagation_max_input_path_size"
  | .propagationOutputPathSize => "propagation_max_output_path_size"
  | .collapseDepth => "propagation_max_collapse_depth"

/-- The value of a bound. -/
def get (b : Bound) (h : Heuristics) : UInt64 :=
  match b with
  | .wideningHeight => h.wideningHeight
  | .generationPortSize => h.generationPortSize
  | .parameterSourcePortSize => h.parameterSourcePortSize
  | .sinkPortSize => h.sinkPortSize
  | .callEffectSourcePortSize => h.callEffectSourcePortSize
  | .callEffectSinkPortSize => h.callEffectSinkPortSize
  | .propagationInputPathSize => h.propagationInputPathSize
  | .propagationOutputPathSize => h.propagationOutputPathSize
  | .collapseDepth => h.collapseDepth

/-- The heuristics with another value of a bound. -/
def set (b : Bound) (n : UInt64) (h : Heuristics) : Heuristics :=
  match b with
  | .wideningHeight => { h with wideningHeight := n }
  | .generationPortSize => { h with generationPortSize := n }
  | .parameterSourcePortSize => { h with parameterSourcePortSize := n }
  | .sinkPortSize => { h with sinkPortSize := n }
  | .callEffectSourcePortSize => { h with callEffectSourcePortSize := n }
  | .callEffectSinkPortSize => { h with callEffectSinkPortSize := n }
  | .propagationInputPathSize => { h with propagationInputPathSize := n }
  | .propagationOutputPathSize => { h with propagationOutputPathSize := n }
  | .collapseDepth => { h with collapseDepth := n }

/-- The field of the record that a bound is read with. -/
def field (b : Bound) : Json.Field Heuristics :=
  ⟨b.key, false, fun v h => return b.set (← v.asUInt64) h⟩

variable {b c : Bound} {n : UInt64} {h : Heuristics}

/-- A change of one bound leaves the others as they are. -/
theorem get_set : c.get (b.set n h) = if c = b then n else c.get h := by
  cases b <;> cases c <;> rfl

theorem ext {h h' : Heuristics} (same : ∀ b : Bound, b.get h = b.get h') : h = h' := by
  cases h
  cases h'
  rw [Heuristics.mk.injEq]
  exact ⟨same .wideningHeight, same .generationPortSize, same .parameterSourcePortSize,
    same .sinkPortSize, same .callEffectSourcePortSize, same .callEffectSinkPortSize,
    same .propagationInputPathSize, same .propagationOutputPathSize, same .collapseDepth⟩

theorem find?_key_self (b : Bound) : all.find? (·.key == b.key) = some b := by
  cases b <;> decide +kernel

theorem find?_key_eq_some_iff {key : String} :
    all.find? (·.key == key) = some b ↔ b.key = key := by
  constructor
  · intro found
    simpa using List.find?_some found
  · rintro rfl
    exact find?_key_self b

theorem key_injective (same : b.key = c.key) : b = c := by
  have found := find?_key_self b
  rw [same, find?_key_self c] at found
  exact (Option.some.inj found).symm

end Bound

/-! ## Reading -/

variable {h h' : Heuristics} {members : List (String × Json)}

theorem fields_record : record.fields = Bound.all.map Bound.field := rfl

theorem find?_fields (key : String) :
    record.fields.find? (·.name == key) = (Bound.all.find? (·.key == key)).map Bound.field :=
  List.find?_map (l := Bound.all) (f := Bound.field)

/-- One member changes the bound that it names to the integer that it holds. -/
theorem setMembers_singleton_eq_ok_iff {key : String} {v : Json} :
    record.setMembers h [(key, v)] = .ok h' ↔
      ∃ (b : Bound) (n : UInt64), key = b.key ∧ v = .integer n.toNat ∧ b.set n h = h' := by
  rw [Json.Record.setMembers_singleton, find?_fields]
  cases found : Bound.all.find? (·.key == key) with
  | some b =>
      obtain rfl := Bound.find?_key_eq_some_iff.1 found
      simp only [Option.map_some, Bound.field, Checked.bind_eq_ok_iff, Json.asUInt64_eq_ok_iff,
        Checked.pure_eq_ok, Except.ok.injEq]
      constructor
      · rintro ⟨n, rfl, rfl⟩
        exact ⟨b, n, rfl, rfl, rfl⟩
      · rintro ⟨c, n, same, rfl, rfl⟩
        rw [Bound.key_injective same]
        exact ⟨n, rfl, rfl⟩
  | none =>
      simp only [Option.map_none, reduceCtorEq, false_iff]
      rintro ⟨b, n, rfl, _⟩
      rw [Bound.find?_key_self b] at found
      cases found

theorem setMembers_cons_eq_ok_iff {key : String} {v : Json} :
    record.setMembers h ((key, v) :: members) = .ok h' ↔
      ∃ (b : Bound) (n : UInt64), key = b.key ∧ v = .integer n.toNat ∧
        record.setMembers (b.set n h) members = .ok h' := by
  rw [← List.singleton_append, Json.Record.setMembers_append, Checked.bind_eq_ok_iff]
  simp only [setMembers_singleton_eq_ok_iff]
  constructor
  · rintro ⟨_, ⟨b, n, hkey, hv, rfl⟩, rest⟩
    exact ⟨b, n, hkey, hv, rest⟩
  · rintro ⟨b, n, hkey, hv, rest⟩
    exact ⟨_, ⟨b, n, hkey, hv, rfl⟩, rest⟩

/-- A member that gives a bound: it has the name of one, and its value is an integer of 64 bits
without a sign. -/
def GivesBound (m : String × Json) : Prop :=
  (∃ b : Bound, m.1 = b.key) ∧ ∃ n : UInt64, m.2 = .integer n.toNat

theorem exists_setMembers_iff :
    (∃ h', record.setMembers h members = .ok h') ↔ ∀ m ∈ members, GivesBound m := by
  induction members generalizing h with
  | nil => exact iff_of_true ⟨h, rfl⟩ (List.forall_mem_nil _)
  | cons m members ih =>
      obtain ⟨key, v⟩ := m
      simp only [setMembers_cons_eq_ok_iff, List.forall_mem_cons]
      constructor
      · rintro ⟨h', b, n, hkey, hv, rest⟩
        exact ⟨⟨⟨b, hkey⟩, n, hv⟩, ih.1 ⟨h', rest⟩⟩
      · rintro ⟨⟨⟨b, hkey⟩, n, hv⟩, rest⟩
        obtain ⟨h', rest⟩ := ih.2 rest
        exact ⟨h', b, n, hkey, hv, rest⟩

/-- A bound takes the value that is given, and keeps its own when none is. -/
def Bound.Takes (given : Option Json) (own taken : UInt64) : Prop :=
  match given with
  | some v => v = .integer taken.toNat
  | none => taken = own

/-- After all members every bound has the value that was given for it.  A bound is given only once,
so what the member of another one changes stays as it is. -/
theorem takes_of_setMembers (distinct : (members.map Prod.fst).Nodup)
    (read : record.setMembers h members = .ok h') (c : Bound) :
    Bound.Takes (members.lookup c.key) (c.get h) (c.get h') := by
  induction members generalizing h with
  | nil =>
      cases read
      rfl
  | cons m members ih =>
      obtain ⟨key, v⟩ := m
      obtain ⟨new, others⟩ := List.nodup_cons.1 distinct
      obtain ⟨b, n, rfl, rfl, rest⟩ := setMembers_cons_eq_ok_iff.1 read
      have later := ih others rest
      rw [Bound.get_set] at later
      by_cases same : c = b
      · subst same
        have once : members.lookup c.key = none := by
          rw [List.lookup_eq_none_iff]
          intro m hm
          rw [bne_iff_ne]
          intro again
          exact new (List.mem_map.2 ⟨m, hm, again.symm⟩)
        rw [once, Bound.Takes, if_pos rfl] at later
        rw [List.lookup_cons_self, Bound.Takes, later]
      · have otherKey : (c.key == b.key) = false := by
          rw [beq_eq_false_iff_ne]
          exact fun keys => same (Bound.key_injective keys)
        rw [if_neg same] at later
        rw [List.lookup_cons, otherKey]
        exact later

/-! ## The collapse depth -/

/-- The heuristics with the collapse depth lowered to the sizes of the paths of propagations. -/
def lowered (h : Heuristics) : Heuristics :=
  { h with collapseDepth := min h.collapseDepth h.propagationPathSize }

/-- Does a warning tell that the collapse depth was lowered? -/
def WarnsOfDepth (events : List Event) : Prop :=
  ∃ depth input output, Event.collapseDepthLowered depth input output ∈ events

theorem lowered_of_above (above : h.propagationPathSize < h.collapseDepth) :
    h.lowered = { h with collapseDepth := h.propagationPathSize } := by
  rw [lowered, Std.min_eq_if, if_neg (UInt64.not_le.2 above)]

theorem lowered_of_not_above (within : ¬h.propagationPathSize < h.collapseDepth) :
    h.lowered = h := by
  rw [lowered, Std.min_eq_if, if_pos (UInt64.not_lt.1 within)]

theorem lowered_lowered (h : Heuristics) : h.lowered.lowered = h.lowered :=
  lowered_of_not_above (UInt64.not_lt.2 Std.min_le_right)

theorem collapseDepth_lowered_lt_iff :
    h.lowered.collapseDepth < h.collapseDepth ↔ h.propagationPathSize < h.collapseDepth := by
  by_cases above : h.propagationPathSize < h.collapseDepth
  · rw [lowered_of_above above]
  · rw [lowered_of_not_above above]
    exact iff_of_false (UInt64.lt_irrefl _) above

theorem value_enforceConsistency (h : Heuristics) : h.enforceConsistency.value = h.lowered := by
  show h.withCollapseDepthLowered.value = h.lowered
  rw [withCollapseDepthLowered]
  split
  next above =>
    rw [lowered_of_above above]
    rfl
  next within =>
    rw [lowered_of_not_above within]
    rfl

theorem warnsOfDepth_append_iff {events others : List Event} :
    WarnsOfDepth (events ++ others) ↔ WarnsOfDepth events ∨ WarnsOfDepth others := by
  simp only [WarnsOfDepth, List.mem_append, exists_or]

theorem warnsOfDepth_withCollapseDepthLowered_iff :
    WarnsOfDepth h.withCollapseDepthLowered.events ↔ h.propagationPathSize < h.collapseDepth := by
  rw [withCollapseDepthLowered]
  split
  next above => exact iff_of_true ⟨_, _, _, List.mem_singleton_self _⟩ above
  next within =>
    refine iff_of_false ?_ within
    rintro ⟨_, _, _, warned⟩
    cases warned

/-- The bounds below the widening height are reported by other warnings. -/
theorem not_warnsOfDepth_widening (bounds : List (String × UInt64)) :
    ¬WarnsOfDepth (bounds.forM fun (name, size) =>
      if h.wideningHeight > size then
        Logged.report (.wideningAbove h.wideningHeight.toNat name size.toNat)
      else pure ()).events := by
  rintro ⟨depth, input, output, warned⟩
  obtain ⟨⟨name, size⟩, _, warned⟩ := Logged.mem_events_forM.1 warned
  dsimp only at warned
  split at warned
  next => cases List.mem_singleton.1 warned
  next => cases warned

/-- The warning comes exactly when the depth is lowered. -/
theorem warnsOfDepth_enforceConsistency_iff :
    WarnsOfDepth h.enforceConsistency.events ↔ h.lowered.collapseDepth < h.collapseDepth := by
  rw [collapseDepth_lowered_lt_iff, ← warnsOfDepth_withCollapseDepthLowered_iff,
    enforceConsistency, Logged.events_bind, Logged.events_bind, Logged.events_pure, List.append_nil,
    warnsOfDepth_append_iff]
  exact or_iff_left (not_warnsOfDepth_widening _)

/-! ## Reading back -/

/-- The bounds in the order of their names. -/
def alphabetical : List Bound :=
  [.callEffectSinkPortSize, .callEffectSourcePortSize, .generationPortSize,
    .parameterSourcePortSize, .collapseDepth, .propagationInputPathSize, .propagationOutputPathSize,
    .sinkPortSize, .wideningHeight]

/-- The members of the JSON form. -/
def entries (h : Heuristics) : List (String × Json) :=
  alphabetical.map fun b => (b.key, .integer (b.get h).toNat)

theorem toJson_eq (h : Heuristics) : h.toJson = .object h.entries := rfl

theorem givesBound_of_mem_entries : ∀ m ∈ h.entries, GivesBound m := by
  intro m hm
  obtain ⟨b, _, rfl⟩ := List.mem_map.1 hm
  exact ⟨⟨b, rfl⟩, _, rfl⟩

theorem nodup_keys_entries : (h.entries.map Prod.fst).Nodup := by
  have distinct : (alphabetical.map Bound.key).Nodup := by decide +kernel
  rwa [entries, List.map_map]

theorem lookup_entries (b : Bound) :
    h.entries.lookup b.key = some (.integer (b.get h).toNat) := by
  cases b <;> rfl

theorem read_object (given : Heuristics) (members : List (String × Json)) :
    record.read given (.object members) = record.setMembers given members := by
  refine Json.Record.read_object (fun field hfield => ?_) members
  rw [fields_record] at hfield
  obtain ⟨b, _, rfl⟩ := List.mem_map.1 hfield
  rfl

/-- Every bound is given, so it does not matter what the reader starts from. -/
theorem read_toJson (own h : Heuristics) : record.read own h.toJson = .ok h := by
  obtain ⟨taken, htaken⟩ :=
    (exists_setMembers_iff (h := own)).2 (givesBound_of_mem_entries (h := h))
  have same : taken = h := by
    refine Bound.ext fun b => ?_
    have value := takes_of_setMembers nodup_keys_entries htaken b
    rw [lookup_entries, Bound.Takes, Json.integer.injEq, Int.natCast_inj] at value
    exact (UInt64.toNat_inj.1 value).symm
  rw [toJson_eq, read_object, htaken, same]

/-! ## Configurations -/

theorem value_ofJson_eq_ok_iff {v : Json} :
    (ofJson v).value = .ok h ↔
      ∃ given, v.readRecord record default = .ok given ∧ given.lowered = h := by
  rw [ofJson, Attempt.value_bind, Attempt.value_ofChecked, Checked.bind_eq_ok_iff]
  simp only [Attempt.value_ofLogged, value_enforceConsistency, Except.ok.injEq]

theorem events_ofJson {v : Json} {given : Heuristics}
    (read : v.readRecord record default = .ok given) :
    (ofJson v).events = given.enforceConsistency.events := by
  rw [ofJson, read, Attempt.ofChecked_ok_bind, Attempt.events_ofLogged]

theorem nodup_keys_of_ordered (ordered : (Json.object members).Ordered) :
    (members.map Prod.fst).Nodup := by
  refine ordered.1.imp fun {a b} before same => ?_
  rw [same, Std.ReflOrd.compare_self] at before
  cases before

theorem exists_value_ofJson_object_iff :
    (∃ h, (ofJson (.object members)).value = .ok h) ↔ ∀ m ∈ members, GivesBound m := by
  simp only [value_ofJson_eq_ok_iff, Json.readRecord_eq_ok_iff, read_object]
  rw [← exists_setMembers_iff (h := default)]
  constructor
  · rintro ⟨_, given, read, rfl⟩
    exact ⟨given, read⟩
  · rintro ⟨given, read⟩
    exact ⟨_, given, read, rfl⟩

/-- An object is a configuration exactly when each of its members gives a bound.  Then every bound
is what was given for it, or what it is by default, and only the collapse depth may be lowered, to
the sizes of the paths of propagations.

Whatever value was accepted, the heuristics that are read from it are consistent, and they are read
back from their JSON form.  A warning tells of the collapse depth exactly when it was lowered. -/
theorem configuration_laws :
    (∀ members : List (String × Json),
      (∃ h, (ofJson (.object members)).value = .ok h) ↔
        ∀ m ∈ members, (∃ b : Bound, m.1 = b.key) ∧ ∃ n : UInt64, m.2 = .integer n.toNat) ∧
    (∀ members h, (Json.object members).Ordered → (ofJson (.object members)).value = .ok h →
      ∃ given : Heuristics,
        (∀ b : Bound,
          Bound.Takes ((Json.object members).get? b.key) (b.get default) (b.get given)) ∧
        h = { given with
          collapseDepth := min given.collapseDepth
            (min given.propagationInputPathSize given.propagationOutputPathSize) } ∧
        (WarnsOfDepth (ofJson (.object members)).events ↔
          h.collapseDepth < given.collapseDepth)) ∧
    ∀ v h, (ofJson v).value = .ok h →
      h.enforceConsistency.value = h ∧ ¬WarnsOfDepth h.enforceConsistency.events ∧
      (ofJson h.toJson).value = .ok h ∧
      ∃ given, v.readRecord record default = .ok given ∧
        (WarnsOfDepth (ofJson v).events ↔ h.collapseDepth < given.collapseDepth) := by
  refine ⟨fun members => exists_value_ofJson_object_iff, fun members h ordered accepted => ?_,
    fun v h accepted => ?_⟩
  · obtain ⟨given, read, rfl⟩ := value_ofJson_eq_ok_iff.1 accepted
    have taken := Json.readRecord_eq_ok_iff.1 read
    rw [read_object] at taken
    refine ⟨given, takes_of_setMembers (nodup_keys_of_ordered ordered) taken, rfl, ?_⟩
    rw [events_ofJson read]
    exact warnsOfDepth_enforceConsistency_iff
  · obtain ⟨given, read, rfl⟩ := value_ofJson_eq_ok_iff.1 accepted
    refine ⟨?_, ?_, ?_, given, read, ?_⟩
    · rw [value_enforceConsistency, lowered_lowered]
    · rw [warnsOfDepth_enforceConsistency_iff, lowered_lowered]
      exact UInt64.lt_irrefl _
    · have reread := Json.readRecord_eq_ok_iff.2 (read_toJson default given.lowered)
      exact value_ofJson_eq_ok_iff.2 ⟨given.lowered, reread, lowered_lowered given⟩
    · rw [events_ofJson read]
      exact warnsOfDepth_enforceConsistency_iff

/-- A configuration with a collapse depth above the size of the input paths. -/
def sampleMembers : List (String × Json) :=
  [("propagation_max_collapse_depth", .integer 8), ("propagation_max_input_path_size", .integer 2)]

/-- The collapse depth of the configuration is lowered, with a warning, and the result is read back.
A member of another name is refused. -/
theorem configuration_laws_samples :
    (∃ h, (ofJson (.object sampleMembers)).value = .ok h ∧ h.collapseDepth = 2 ∧
      WarnsOfDepth (ofJson (.object sampleMembers)).events ∧ (ofJson h.toJson).value = .ok h) ∧
    ¬∃ h, (ofJson (.object [("max_port_size", .integer 2)])).value = .ok h := by
  obtain ⟨accepts, takes, keeps⟩ := configuration_laws
  refine ⟨?_, fun accepted => ?_⟩
  · have accepted : (ofJson (.object sampleMembers)).value =
        .ok { propagationInputPathSize := 2, collapseDepth := 2 } := rfl
    have ordered : (Json.object sampleMembers).Ordered := by
      refine ⟨?_, trivial, trivial, trivial⟩
      decide +kernel
    obtain ⟨given, values, _, warns⟩ := takes _ _ ordered accepted
    have eight : Json.integer 8 = .integer given.collapseDepth.toNat := values .collapseDepth
    rw [Json.integer.injEq] at eight
    refine ⟨_, accepted, rfl, warns.2 (UInt64.lt_iff_toNat_lt.2 ?_), (keeps _ _ accepted).2.2.1⟩
    rw [← Int.ofNat_lt, ← eight]
    decide
  · obtain ⟨⟨b, named⟩, _⟩ := (accepts _).1 accepted _ (List.mem_singleton_self _)
    cases b <;> exact absurd named (by decide +kernel)

end TaintFlow.Heuristics
