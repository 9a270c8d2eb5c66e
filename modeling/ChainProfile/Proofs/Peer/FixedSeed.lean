import ChainProfile.Proofs.Peer.Drawing
import Mathlib.Data.List.Forall2

/-!
# The records of packed seeds

Every seed becomes one record, in order, at the address that is packed.  A draw
below a range stays below it, whatever the random words are, so the age of a record
is less than a week and its time lies between two weeks and one week in the past.

The record at some place takes the draw at that place.  So the records are there
exactly if the source yields as many accepted words as there are seeds
(`exists_peers_eq_some_iff`), and they are told from any first words that hold that
many (`peers_eq_some`); words behind those are not looked at.  A source that does not
yield them keeps the last draw going for ever.
-/

namespace ChainProfile

open RandomWords

namespace IPv4

/-- The number that an address is packed as, its first octet being the lowest byte. -/
def packed (address : IPv4) : Nat :=
  address.a.toNat + 256 * address.b.toNat + 65536 * address.c.toNat + 16777216 * address.d.toNat

theorem packed_ofPacked (word : UInt32) : (ofPacked word).packed = word.toNat := by
  have bound := word.toNat_lt
  simp only [packed, ofPacked, UInt32.toNat_toUInt8, UInt32.toNat_shiftRight,
    UInt32.toNat_ofNat, Nat.shiftRight_eq_div_pow, Nat.reducePow, Nat.reduceMod]
  omega

theorem ofPacked_inj {first second : UInt32} :
    ofPacked first = ofPacked second ↔ first = second := by
  constructor
  · intro same
    have words := congrArg packed same
    rw [packed_ofPacked, packed_ofPacked] at words
    exact UInt32.toNat_inj.mp words
  · rintro rfl
    rfl

end IPv4

namespace FixedSeed

/-! ## One record -/

/-- What the record of a packed seed has to be: the address that is packed with the common port, a
full node, seen last between two weeks and one week ago. -/
structure IsRecord (port : UInt16) (now : Int64) (seed : UInt32) (record : PeerAddress) : Prop where
  address : record.address = .v4 (IPv4.ofPacked seed) port
  services : record.services = nodeService
  oldest : now.toInt - 2 * oneWeek < record.time.toInt
  newest : record.time.toInt ≤ now.toInt - oneWeek

/-- What the record of a packed seed has to be for an age: the octets of the address are those of
the packed number, and the age and one week are taken off without overflow. -/
structure IsStamped (port : UInt16) (now : Int64) (age : Nat) (seed : UInt32)
    (record : PeerAddress) : Prop extends IsRecord port now seed record where
  octets : ∃ address : IPv4, record.address = .v4 address port ∧ address.packed = seed.toNat
  recent : age < oneWeek
  time : record.time = now - Int64.ofNat age - Int64.ofNat oneWeek
  aged : (now - Int64.ofNat age).toInt = now.toInt - age
  exactTime : record.time.toInt = now.toInt - age - oneWeek

variable {port : UInt16} {now : Int64}

theorem toInt_sub_age {age : Nat} (recent : age < oneWeek)
    (late : Int64.minValue.toInt ≤ now.toInt - 2 * oneWeek) :
    (now - Int64.ofNat age).toInt = now.toInt - age := by
  have upper := now.toInt_lt
  rw [Int64.toInt_minValue] at late
  unfold oneWeek at recent late
  have ageRead : (Int64.ofNat age).toInt = age := Int64.toInt_ofNat_of_lt (by omega)
  rw [Int64.toInt_sub, ageRead]
  apply Int.bmod_eq_of_le <;> omega

/-- The time of a record is computed without overflow if two weeks before now is a time. -/
theorem toInt_time_peer {age : Nat} {seed : UInt32} (recent : age < oneWeek)
    (late : Int64.minValue.toInt ≤ now.toInt - 2 * oneWeek) :
    (peer port now age seed).time.toInt = now.toInt - age - oneWeek := by
  have upper := now.toInt_lt
  have weekRead : (Int64.ofNat oneWeek).toInt = oneWeek := rfl
  rw [peer, Int64.toInt_sub, toInt_sub_age recent late, weekRead]
  rw [Int64.toInt_minValue] at late
  unfold oneWeek at recent late ⊢
  apply Int.bmod_eq_of_le <;> omega

theorem isRecord_peer {age : Nat} {seed : UInt32} (recent : age < oneWeek)
    (late : Int64.minValue.toInt ≤ now.toInt - 2 * oneWeek) :
    IsRecord port now seed (peer port now age seed) where
  address := rfl
  services := rfl
  oldest := by
    rw [toInt_time_peer recent late]
    omega
  newest := by
    rw [toInt_time_peer recent late]
    omega

theorem isStamped_peer {age : Nat} {seed : UInt32} (recent : age < oneWeek)
    (late : Int64.minValue.toInt ≤ now.toInt - 2 * oneWeek) :
    IsStamped port now age seed (peer port now age seed) where
  toIsRecord := isRecord_peer recent late
  octets := ⟨_, rfl, IPv4.packed_ofPacked seed⟩
  recent := recent
  time := rfl
  aged := toInt_sub_age recent late
  exactTime := toInt_time_peer recent late

/-! ## All records -/

section Records

variable {ages : List Nat} {seeds : List UInt32}

/-- The records of packed seeds are as many as the seeds and in their order. -/
theorem forall₂_isRecord_zipWith (late : Int64.minValue.toInt ≤ now.toInt - 2 * oneWeek)
    (enough : seeds.length ≤ ages.length) (recent : ∀ age ∈ ages, age < oneWeek) :
    List.Forall₂ (IsRecord port now) seeds (List.zipWith (peer port now) ages seeds) := by
  induction seeds generalizing ages with
  | nil => simp
  | cons seed seeds ih =>
      cases ages with
      | nil => cases enough
      | cons age ages =>
          rcases List.forall_mem_cons.mp recent with ⟨ageRecent, othersRecent⟩
          exact .cons (isRecord_peer ageRecent late)
            (ih (Nat.le_of_succ_le_succ enough) othersRecent)

variable {moment : Moment}

/-- Records made from a place on take the draws behind those of the words before that place. -/
theorem peersAt_eq_some {place length : Nat}
    (enough : (draws oneWeek (firstWords moment.words place)).length + seeds.length ≤
      (draws oneWeek (firstWords moment.words length)).length) :
    peersAt port moment seeds place =
      some (List.zipWith (peer port moment.now)
        ((draws oneWeek (firstWords moment.words length)).drop
          (draws oneWeek (firstWords moment.words place)).length) seeds) := by
  induction seeds generalizing place with
  | nil => simp [peersAt]
  | cons seed seeds ih =>
      rw [List.length_cons] at enough
      have more : (draws oneWeek (firstWords moment.words place)).length <
          (draws oneWeek (firstWords moment.words length)).length := by omega
      rcases exists_draw_eq_some more with ⟨⟨age, next⟩, ends⟩
      have added := draws_firstWords_of_draw ends
      have counted : (draws oneWeek (firstWords moment.words next)).length =
          (draws oneWeek (firstWords moment.words place)).length + 1 := by
        rw [added, List.length_append, List.length_singleton]
      have others := @ih next (by omega)
      -- The draw is the first one behind the draws that are taken already.
      have begins : draws oneWeek (firstWords moment.words next) <+:
          draws oneWeek (firstWords moment.words length) :=
        draws_firstWords_isPrefix_of_length_le (by omega)
      rcases begins with ⟨rest, whole⟩
      rw [← whole, List.drop_left] at others
      rw [added, List.append_assoc] at whole
      rw [← whole, List.drop_left, peersAt, ends]
      simp [others]

/-- Records that are made take a draw of the source for each seed. -/
theorem exists_length_le_of_peersAt {place : Nat} {records : List PeerAddress}
    (made : peersAt port moment seeds place = some records) :
    ∃ length, (draws oneWeek (firstWords moment.words place)).length + seeds.length ≤
      (draws oneWeek (firstWords moment.words length)).length := by
  induction seeds generalizing place records with
  | nil => exact ⟨place, Nat.le_refl _⟩
  | cons seed seeds ih =>
      simp only [peersAt, Option.bind_eq_bind, Option.bind_eq_some_iff] at made
      rcases made with ⟨⟨age, next⟩, ends, others, othersMade, _⟩
      rcases ih othersMade with ⟨length, enough⟩
      rw [draws_firstWords_of_draw ends, List.length_append, List.length_singleton] at enough
      refine ⟨length, ?_⟩
      rw [List.length_cons]
      omega

/-- The records are told from any first words with a draw for each seed. -/
theorem peers_eq_some {length : Nat}
    (enough : seeds.length ≤ (draws oneWeek (firstWords moment.words length)).length) :
    peers port moment seeds =
      some (List.zipWith (peer port moment.now) (draws oneWeek (firstWords moment.words length))
        seeds) := by
  have nothing : draws oneWeek (firstWords moment.words 0) = [] := rfl
  have fromStart : (draws oneWeek (firstWords moment.words 0)).length + seeds.length ≤
      (draws oneWeek (firstWords moment.words length)).length := by
    rw [nothing, List.length_nil, Nat.zero_add]
    exact enough
  rw [peers, peersAt_eq_some fromStart, nothing, List.length_nil, List.drop_zero]

end Records

end FixedSeed

/-- Whether among some first words of a moment's source there are as many that a draw of an age
accepts as there are ages to be drawn. -/
def Moment.Supplies (moment : Moment) (count : Nat) : Prop :=
  ∃ length, count ≤ (firstWords moment.words length).countP (accepts FixedSeed.oneWeek)

namespace Moment

open FixedSeed (oneWeek)

variable {moment : Moment} {count : Nat}

theorem supplies_iff :
    moment.Supplies count ↔
      ∃ length, count ≤ (draws oneWeek (firstWords moment.words length)).length := by
  simp only [Supplies, length_draws]

/-- A source that goes on with zeros never runs out, as zeros are accepted. -/
theorem supplies_ofWords (now : Int64) (words : List UInt64) (count : Nat) :
    (ofWords now words).Supplies count := by
  have begins : firstWords (ofWords now words).words (words.length + count) =
      words ++ List.replicate count 0 := by
    apply List.ext_getElem
    · simp [firstWords]
    · intro place _ _
      simp only [firstWords, ofWords, List.getElem_map, List.getElem_range, List.getElem_append,
        List.getElem_replicate, List.getD_eq_getElem?_getD]
      split
      · next inside => rw [List.getElem?_eq_getElem inside, Option.getD_some]
      · next outside => rw [List.getElem?_eq_none (Nat.le_of_not_lt outside), Option.getD_none]
  refine ⟨words.length + count, ?_⟩
  rw [begins, List.countP_append, List.countP_replicate, if_pos accepts_zero]
  exact Nat.le_add_left count _

/-- A moment whose source yields the same word for ever, one that no draw of an age accepts. -/
def refusing : Moment := ⟨1700000000, fun _ => 0xffffffffffffffff⟩

theorem not_supplies_refusing (positive : 0 < count) : ¬refusing.Supplies count := by
  rintro ⟨length, enough⟩
  have refused : (firstWords refusing.words length).countP (accepts oneWeek) = 0 := by
    apply List.countP_eq_zero.mpr
    intro word member
    rcases List.mem_map.mp member with ⟨place, _, rfl⟩
    change ¬accepts oneWeek 0xffffffffffffffff
    decide
  omega

end Moment

namespace FixedSeed

variable {port : UInt16} {moment : Moment} {seeds : List UInt32}

/-- Records are made exactly if the source yields an accepted word for each seed. -/
theorem exists_peers_eq_some_iff (port : UInt16) :
    (∃ records, peers port moment seeds = some records) ↔ moment.Supplies seeds.length := by
  rw [Moment.supplies_iff]
  constructor
  · rintro ⟨records, made⟩
    rcases exists_length_le_of_peersAt made with ⟨length, enough⟩
    exact ⟨length, Nat.le_trans (Nat.le_add_left _ _) enough⟩
  · rintro ⟨length, enough⟩
    exact ⟨_, peers_eq_some enough⟩

theorem peers_eq_none_iff (port : UInt16) :
    peers port moment seeds = none ↔ ¬moment.Supplies seeds.length := by
  rw [← exists_peers_eq_some_iff port, Option.eq_none_iff_forall_ne_some, not_exists]

/-- Records that are made are those of the draws among some first words of the source. -/
theorem exists_peers_eq_zipWith {records : List PeerAddress}
    (made : peers port moment seeds = some records) :
    ∃ length, seeds.length ≤ (draws oneWeek (firstWords moment.words length)).length ∧
      records = List.zipWith (peer port moment.now)
        (draws oneWeek (firstWords moment.words length)) seeds := by
  have supplied := (exists_peers_eq_some_iff port).mp ⟨records, made⟩
  rcases Moment.supplies_iff.mp supplied with ⟨length, enough⟩
  rw [peers_eq_some enough] at made
  exact ⟨length, enough, (Option.some.inj made).symm⟩

theorem forall₂_isRecord_of_peers {records : List PeerAddress}
    (late : Int64.minValue.toInt ≤ moment.now.toInt - 2 * oneWeek)
    (made : peers port moment seeds = some records) :
    List.Forall₂ (IsRecord port moment.now) seeds records := by
  rcases exists_peers_eq_zipWith made with ⟨length, enough, rfl⟩
  exact forall₂_isRecord_zipWith late enough fun age => lt_of_mem_draws (by decide)

/-- The record at a place is that of the seed there, with the age that is drawn at that place. -/
theorem exists_isStamped_getElem? {records : List PeerAddress} {length place : Nat} {seed : UInt32}
    (late : Int64.minValue.toInt ≤ moment.now.toInt - 2 * oneWeek)
    (made : peers port moment seeds = some records)
    (enough : seeds.length ≤ (draws oneWeek (firstWords moment.words length)).length)
    (found : seeds[place]? = some seed) :
    ∃ record age, records[place]? = some record ∧
      (draws oneWeek (firstWords moment.words length))[place]? = some age ∧
      IsStamped port moment.now age seed record := by
  rw [peers_eq_some enough, Option.some.injEq] at made
  have inside : place < (draws oneWeek (firstWords moment.words length)).length :=
    Nat.lt_of_lt_of_le (List.getElem?_eq_some_iff.mp found).1 enough
  have drawn := List.getElem?_eq_getElem inside
  have recent : (draws oneWeek (firstWords moment.words length))[place] < oneWeek :=
    lt_of_mem_draws (by decide) (List.getElem_mem inside)
  refine ⟨_, _, ?_, drawn, isStamped_peer recent late⟩
  rw [← made, List.getElem?_zipWith, drawn, found]

/-- The address at a place is the one that is packed there, whatever the age is. -/
theorem map_address_getElem? {records : List PeerAddress}
    (made : peers port moment seeds = some records) (place : Nat) :
    records[place]?.map PeerAddress.address =
      seeds[place]?.map fun seed => .v4 (IPv4.ofPacked seed) port := by
  rcases exists_peers_eq_zipWith made with ⟨length, enough, rfl⟩
  rw [List.getElem?_zipWith]
  cases found : seeds[place]? with
  | none => cases (draws oneWeek (firstWords moment.words length))[place]? <;> rfl
  | some seed =>
      have inside : place < (draws oneWeek (firstWords moment.words length)).length :=
        Nat.lt_of_lt_of_le (List.getElem?_eq_some_iff.mp found).1 enough
      rw [List.getElem?_eq_getElem inside]
      rfl

/-- Packed seeds become records exactly if the source yields an accepted word for each of them, and
for ever nothing otherwise.  There are as many records as seeds, in their order.  The record of a
seed has its octets, the common port and the age that is drawn from the accepted word at its place;
no word behind enough accepted ones is looked at.  Two records have the same address exactly if
their seeds are the same. -/
theorem exists_peers_iff_and_isStamped_getElem? (port : UInt16) (moment : Moment)
    (seeds : List UInt32) (late : Int64.minValue.toInt ≤ moment.now.toInt - 2 * oneWeek) :
    ((∃ records, peers port moment seeds = some records) ↔ moment.Supplies seeds.length) ∧
    ∀ records, peers port moment seeds = some records →
      records.length = seeds.length ∧
      (∀ length, seeds.length ≤ (draws oneWeek (firstWords moment.words length)).length →
        (∀ (place : Nat) (seed : UInt32), seeds[place]? = some seed →
          ∃ record age, records[place]? = some record ∧
            (draws oneWeek (firstWords moment.words length))[place]? = some age ∧
            IsStamped port moment.now age seed record) ∧
        ∀ words, firstWords words length = firstWords moment.words length →
          peers port ⟨moment.now, words⟩ seeds = some records) ∧
      ∀ first second : Nat,
        records[first]?.map PeerAddress.address = records[second]?.map PeerAddress.address ↔
          seeds[first]? = seeds[second]? := by
  refine ⟨exists_peers_eq_some_iff port, ?_⟩
  intro records made
  refine ⟨(forall₂_isRecord_of_peers late made).length_eq.symm, ?_, ?_⟩
  · intro length enough
    refine ⟨fun place seed found => exists_isStamped_getElem? late made enough found, ?_⟩
    intro words same
    have alsoEnough : seeds.length ≤ (draws oneWeek (firstWords words length)).length := by
      rw [same]
      exact enough
    rw [← made, peers_eq_some enough, ← same]
    exact peers_eq_some alsoEnough
  · intro first second
    rw [map_address_getElem? made, map_address_getElem? made]
    apply (Option.map_injective _).eq_iff
    intro seed other same
    exact IPv4.ofPacked_inj.mp (SocketAddress.v4.inj same).1

/-- A moment two weeks after the first time there is, with a word that is refused between one that
is drawn as half a week and one that is drawn as the greatest age. -/
def earliest : Moment :=
  .ofWords (Int64.minValue + 1209600) [0x8000000000000000, 0xffffffffffffffff, 0xffffe442886ccb11]

theorem exists_peers_iff_and_isStamped_getElem?_earliest :
    Int64.minValue.toInt ≤ earliest.now.toInt - 2 * oneWeek ∧ earliest.Supplies 2 ∧
      draws oneWeek (firstWords earliest.words 3) = [302400, 604799] ∧
      ∃ records record, peers 18444 earliest [0x0100007f, 0x253b1359] = some records ∧
        records[1]? = some record ∧ IsStamped 18444 earliest.now 604799 0x253b1359 record := by
  have late : Int64.minValue.toInt ≤ earliest.now.toInt - 2 * oneWeek := by decide
  have supplied : earliest.Supplies 2 := Moment.supplies_ofWords _ _ 2
  have drawn : draws oneWeek (firstWords earliest.words 3) = [302400, 604799] := by decide
  rcases exists_peers_iff_and_isStamped_getElem? 18444 earliest [0x0100007f, 0x253b1359] late with
    ⟨made_iff, law⟩
  rcases made_iff.mpr supplied with ⟨records, made⟩
  rcases law records made with ⟨_, stamped, _⟩
  rcases (stamped 3 (by rw [drawn]; decide)).1 1 0x253b1359 rfl with
    ⟨record, age, found, aged, isStamped⟩
  rw [drawn] at aged
  cases aged
  exact ⟨late, supplied, drawn, records, record, made, found, isStamped⟩

/-- With a source whose words are all refused the first draw never ends, and no record is made. -/
theorem not_forall_exists_peers :
    Int64.minValue.toInt ≤ Moment.refusing.now.toInt - 2 * oneWeek ∧
      peers 18444 .refusing [0x0100007f] = none ∧
      ¬∀ (port : UInt16) (moment : Moment) (seeds : List UInt32),
        Int64.minValue.toInt ≤ moment.now.toInt - 2 * oneWeek →
          ∃ records, peers port moment seeds = some records ∧ records.length = seeds.length := by
  have late : Int64.minValue.toInt ≤ Moment.refusing.now.toInt - 2 * oneWeek := by decide
  have never : peers 18444 .refusing [0x0100007f] = none :=
    (peers_eq_none_iff 18444).mpr (Moment.not_supplies_refusing (by decide))
  refine ⟨late, never, ?_⟩
  intro returns
  rcases returns 18444 .refusing [0x0100007f] late with ⟨records, made, _⟩
  cases never.symm.trans made

end FixedSeed

end ChainProfile
