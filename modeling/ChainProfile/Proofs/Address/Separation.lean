import ChainProfile.Proofs.Address.RoundTrip
import ChainProfile.Proofs.Parameters.Registry

/-!
# Reading an address as another kind or on another network

A text is read as another kind than it was written for exactly when the prefix of
that kind begins the data.  No payload makes this happen if neither prefix begins
the other.  The tables of the three networks are of that sort throughout, save that
the regression network uses the test network's table.

A table of one's own need not be: what is demanded of a table is that no two kinds
have the same prefix, not that no prefix begins another.
-/

namespace ChainProfile

namespace Address

/-- Neither of two byte strings begins the other. -/
def Apart (first second : Bytes) : Prop := ¬first <+: second ∧ ¬second <+: first

instance (first second : Bytes) : Decidable (Apart first second) :=
  inferInstanceAs (Decidable (¬first <+: second ∧ ¬second <+: first))

/-- Whether a byte string begins another one and is not the whole of it. -/
def ProperlyBegins (first second : Bytes) : Prop := first <+: second ∧ first ≠ second

theorem apart_iff_not_properlyBegins {first second : Bytes} (distinct : first ≠ second) :
    Apart first second ↔ ¬ProperlyBegins first second ∧ ¬ProperlyBegins second first := by
  simp only [Apart, ProperlyBegins, ne_eq, distinct, distinct.symm, not_false_eq_true, and_true]

theorem forall_not_isPrefix_append_iff {own other : Bytes} :
    (∀ payload, ¬other <+: own ++ payload) ↔ Apart own other := by
  constructor
  · intro never
    constructor
    · rintro ⟨payload, extended⟩
      exact never payload (extended ▸ List.prefix_rfl)
    · intro begins
      exact never [] (by simpa using begins)
  · rintro ⟨notOwn, notOther⟩ payload begins
    -- Two beginnings of the same data are comparable.
    rcases List.prefix_or_prefix_of_prefix begins (List.prefix_append own payload) with
      shorter | longer
    · exact notOther shorter
    · exact notOwn longer

variable {source target parameters : Parameters} {kind other : KeyKind} {payload : Bytes}

theorem base58Check_decode_encode :
    Base58Check.decode (encode source kind payload) = .ok (source.prefixes.get kind ++ payload) :=
  Base58Check.decode_eq_ok_iff.mpr rfl

theorem decode_encode_eq_ok_iff {result : Bytes} :
    decode target other (encode source kind payload) = .ok result ↔
      source.prefixes.get kind ++ payload = target.prefixes.get other ++ result := by
  rw [decode_eq_ok_iff_base58Check, base58Check_decode_encode, Except.ok.injEq]

/-- A text that was written for some kind is only ever refused for its prefix. -/
theorem decode_encode_eq_error_iff :
    decode target other (encode source kind payload) =
        .error (.address (.otherKind other target.network)) ↔
      ¬target.prefixes.get other <+: source.prefixes.get kind ++ payload := by
  rw [← stripLeading_eq_none_iff, decode, base58Check_decode_encode]
  cases stripped : stripLeading (target.prefixes.get other)
      (source.prefixes.get kind ++ payload) with
  | none => simp [stripped]
  | some rest => simp [stripped]

theorem decode_encode_of_apart
    (apart : Apart (source.prefixes.get kind) (target.prefixes.get other)) :
    decode target other (encode source kind payload) =
      .error (.address (.otherKind other target.network)) :=
  decode_encode_eq_error_iff.mpr (forall_not_isPrefix_append_iff.mpr apart payload)

end Address

/-- Whether two networks have the same table of prefixes: the regression network keeps the test
network's. -/
def Network.SharesPrefixes (first second : Network) : Prop :=
  first = second ∨
    first ∈ [Network.test, Network.regression] ∧ second ∈ [Network.test, Network.regression]

instance (first second : Network) : Decidable (first.SharesPrefixes second) :=
  inferInstanceAs (Decidable (_ ∨ _ ∧ _))

theorem Network.mem_all (network : Network) : network ∈ all := by
  cases network <;> decide

namespace Profile

theorem prefixes_ofNetwork_eq {source target : Network} (shared : source.SharesPrefixes target) :
    (ofNetwork source).prefixes = (ofNetwork target).prefixes := by
  revert shared
  cases source <;> cases target <;> decide

theorem apart_prefixes_ofNetwork {source target : Network} {kind other : KeyKind}
    (different : ¬(kind = other ∧ source.SharesPrefixes target)) :
    Address.Apart ((ofNetwork source).prefixes.get kind) ((ofNetwork target).prefixes.get other) := by
  have table : ∀ source ∈ Network.all, ∀ target ∈ Network.all, ∀ kind ∈ KeyKind.all,
      ∀ other ∈ KeyKind.all, ¬(kind = other ∧ source.SharesPrefixes target) →
        Address.Apart ((ofNetwork source).prefixes.get kind)
          ((ofNetwork target).prefixes.get other) := by
    decide
  exact table source source.mem_all target target.mem_all kind kind.mem_all other other.mem_all
    different

theorem prefixes_customized {network : Network} {overrides : List Override}
    (kept : ∀ table, .prefixes table ∉ overrides) :
    (customized network overrides).prefixes = (ofNetwork network).prefixes := by
  have none : overrides.filterMap Override.prefixes? = [] := by
    rw [List.filterMap_eq_nil_iff]
    intro override member
    cases override with
    | prefixes table => exact absurd member (kept table)
    | _ => rfl
  rw [customized_eq_withLast]
  simp only [withLast, Override.lastValue, none, List.getLastD_nil]

variable {network : Network} {overrides : List Override} {moment : Moment}
  {parameters : Parameters}

theorem network_of_build_customized
    (built : (customized network overrides).build moment = some (.ok parameters)) :
    parameters.network = network := by
  rcases build_eq_ok_iff.mp built with ⟨_, _, _, rfl⟩
  exact network_customized network overrides

theorem get_prefixes_ne_of_build {profile : Profile} {kind other : KeyKind}
    (built : profile.build moment = some (.ok parameters)) (different : kind ≠ other) :
    parameters.prefixes.get kind ≠ parameters.prefixes.get other := by
  rcases build_eq_ok_iff.mp built with ⟨passes, _, _, rfl⟩
  intro same
  exact different ((passes .prefixes).2 kind other same)

end Profile

namespace Address

variable {network : Network} {overrides : List Profile.Override} {moment : Moment}
  {parameters : Parameters} {kind other : KeyKind}

/-- Under a table that is accepted, the text of a payload of one kind is refused as another kind
unless the other prefix begins the data.  Every payload is refused exactly if neither prefix is a
proper beginning of the other, and a network's own table is always of that sort. -/
theorem decode_encode_eq_error_iff_of_build
    (built : (Profile.customized network overrides).build moment = some (.ok parameters))
    (different : kind ≠ other) :
    (∀ payload, decode parameters other (encode parameters kind payload) =
        .error (.address (.otherKind other network)) ↔
      ¬parameters.prefixes.get other <+: parameters.prefixes.get kind ++ payload) ∧
    ((∀ payload, decode parameters other (encode parameters kind payload) =
        .error (.address (.otherKind other network))) ↔
      ¬ProperlyBegins (parameters.prefixes.get kind) (parameters.prefixes.get other) ∧
        ¬ProperlyBegins (parameters.prefixes.get other) (parameters.prefixes.get kind)) ∧
    ((∀ table, .prefixes table ∉ overrides) →
      ∀ payload, decode parameters other (encode parameters kind payload) =
        .error (.address (.otherKind other network))) := by
  have refused (payload : Bytes) :
      decode parameters other (encode parameters kind payload) =
          .error (.address (.otherKind other network)) ↔
        ¬parameters.prefixes.get other <+: parameters.prefixes.get kind ++ payload := by
    rw [← Profile.network_of_build_customized built]
    exact decode_encode_eq_error_iff
  refine ⟨refused, ?_, ?_⟩
  · rw [← apart_iff_not_properlyBegins (Profile.get_prefixes_ne_of_build built different),
      ← forall_not_isPrefix_append_iff]
    exact forall_congr' refused
  · intro kept payload
    rw [refused]
    apply forall_not_isPrefix_append_iff.mpr
    rcases Profile.build_eq_ok_iff.mp built with ⟨_, _, _, rfl⟩
    simp only [Parameters.ofChecked, Profile.prefixes_customized kept]
    exact Profile.apart_prefixes_ofNetwork fun same => different same.1

/-- A table in which the first prefix begins the second. -/
def nested : PrefixTable := ⟨[1], [1, 2], [3], [4], [5]⟩

theorem isUsable_nested : nested.IsUsable := PrefixTable.firstFault?_eq_none_iff.mp (by decide)

/-- Under the nested table one payload of the first kind is refused as the second kind and the kinds
behind them are told apart for every payload, as are the kinds of the production network. -/
theorem decode_encode_eq_error_nested :
    (∃ parameters, (Profile.customized .main [.prefixes nested]).build (.ofWords 0 []) =
        some (.ok parameters) ∧
      decode parameters .scriptAddress (encode parameters .pubkeyAddress [3]) =
        .error (.address (.otherKind .scriptAddress .main)) ∧
      ∀ payload, decode parameters .extPublicKey (encode parameters .secretKey payload) =
        .error (.address (.otherKind .extPublicKey .main))) ∧
    ∃ parameters, (Profile.customized .main []).build (.ofWords 0 []) = some (.ok parameters) ∧
      ∀ payload, decode parameters .extPublicKey (encode parameters .extSecretKey payload) =
        .error (.address (.otherKind .extPublicKey .main)) := by
  constructor
  · rcases Profile.exists_build_customized_prefixes .main isUsable_nested
      (Moment.supplies_ofWords 0 [] _) with ⟨parameters, built, table⟩
    refine ⟨parameters, built, ?_, ?_⟩
    · apply ((decode_encode_eq_error_iff_of_build built (by decide)).1 [3]).mpr
      rw [table]
      decide
    · apply (decode_encode_eq_error_iff_of_build built (by decide)).2.1.mpr
      rw [table]
      exact ⟨fun begins => absurd begins.1 (by decide), fun begins => absurd begins.1 (by decide)⟩
  · rcases Registry.exists_build_ofWords 0 [] with ⟨registry, registryBuilt⟩
    have built : (Profile.customized .main []).build (.ofWords 0 []) = some (.ok registry.main) :=
      Registry.build_eq_ok_iff.mp registryBuilt .main
    refine ⟨registry.main, built, ?_⟩
    apply (decode_encode_eq_error_iff_of_build built (by decide)).2.2
    intro table member
    cases member

/-- A table can be accepted under which a text of one kind is read as another kind: the empty script
address under the nested table is also a public key address with the payload `[2]`. -/
theorem not_forall_decode_encode_eq_error :
    ¬∀ (network : Network) (overrides : List Profile.Override) (moment : Moment)
      (parameters : Parameters) (kind other : KeyKind) (payload : Bytes),
      (Profile.customized network overrides).build moment = some (.ok parameters) → kind ≠ other →
        ∃ fault, decode parameters other (encode parameters kind payload) =
          .error (.address fault) := by
  intro refused
  rcases Profile.exists_build_customized_prefixes .main isUsable_nested
    (Moment.supplies_ofWords 0 [] _) with ⟨parameters, built, table⟩
  have accepted : decode parameters .pubkeyAddress (encode parameters .scriptAddress []) =
      .ok [2] := by
    rw [decode_encode_eq_ok_iff, table]
    rfl
  rcases refused .main [.prefixes nested] (.ofWords 0 []) parameters .scriptAddress .pubkeyAddress
    [] built (by decide) with ⟨fault, failed⟩
  rw [accepted] at failed
  cases failed

/-- A text written on one network is read on another one exactly as the same kind and exactly if
the networks share their table; otherwise it is refused for its prefix.  The parameters of the
networks are built at any moment that supplies their fixed seeds. -/
theorem decode_encode_across_networks (moment : Network → Moment) :
    ((∃ registry, Registry.build moment = some (.ok registry)) ↔
      ∀ network, (moment network).Supplies (Profile.ofNetwork network).fixedSeeds.length) ∧
    ∀ registry, Registry.build moment = some (.ok registry) →
      ∀ (source target : Network) (kind other : KeyKind) (payload : Bytes),
        decode (registry.get target) other (encode (registry.get source) kind payload) =
            (if kind = other ∧ source.SharesPrefixes target then .ok payload
              else .error (.address (.otherKind other target))) ∧
          (AddressFault.otherKind other target).message =
            "not a " ++ other.name ++ " for " ++ target.name := by
  refine ⟨Registry.exists_build_eq_ok_iff, ?_⟩
  intro registry registryBuilt source target kind other payload
  refine ⟨?_, rfl⟩
  split
  · next same =>
      rw [decode_encode_eq_ok_iff, Registry.prefixes_get registryBuilt,
        Registry.prefixes_get registryBuilt, Profile.prefixes_ofNetwork_eq same.2, same.1]
  · next different =>
      have apart : Apart ((registry.get source).prefixes.get kind)
          ((registry.get target).prefixes.get other) := by
        rw [Registry.prefixes_get registryBuilt, Registry.prefixes_get registryBuilt]
        exact Profile.apart_prefixes_ofNetwork different
      rw [decode_encode_of_apart apart, Registry.network_get registryBuilt]

/-- The regression network reads the texts of the test network, and the production network refuses
them. -/
theorem decode_encode_across_networks_test :
    ∃ registry, Registry.build (fun _ => .ofWords 0 []) = some (.ok registry) ∧
      decode (registry.get .regression) .pubkeyAddress
          (encode (registry.get .test) .pubkeyAddress [7]) = .ok [7] ∧
        decode (registry.get .main) .pubkeyAddress
            (encode (registry.get .test) .pubkeyAddress [7]) =
          .error (.address (.otherKind .pubkeyAddress .main)) := by
  rcases decode_encode_across_networks (fun _ => .ofWords 0 []) with ⟨builds_iff, law⟩
  rcases builds_iff.mpr (fun _ => Moment.supplies_ofWords 0 [] _) with ⟨registry, built⟩
  refine ⟨registry, built, ?_, ?_⟩
  · exact (law registry built .test .regression .pubkeyAddress .pubkeyAddress [7]).1
  · exact (law registry built .test .main .pubkeyAddress .pubkeyAddress [7]).1

end Address

end ChainProfile
