import Mathlib.Data.List.DropRight
import Mathlib.Data.List.Infix
import ThermalSimd.CText
import ThermalSimd.SensorChoice

/-!
# The package a sensor belongs to

What `telemetry_helper.c` makes of the thermal zones and hardware monitors it enumerates: texts,
scores, mentions of the package, and the sensor it selects. A text mentions a package where its
digits follow a phrase; with several packages that is taken for the sensor's identity.
-/

namespace ThermalSimd
namespace Sensors

open CText

/-- `read_text_from_path` into a buffer: the first line as far as it fits, trimmed at its end. -/
def readTextFromPath (size : ℕ) : Option (List Char) → Option (List Char)
  | none => none
  | some [] => none
  | some content => some ((((content.take (size - 1)).takeWhile (· ≠ '\n')).takeWhile
      (· ≠ '\x00')).rdropWhile fun c => c ∈ ['\n', '\r', ' ', '\t'])

/-- `lowercase_ascii`. -/
def lowercaseAscii (text : List Char) : List Char := text.map Char.toLower

def phrases : List (List Char) :=
  [['p', 'a', 'c', 'k', 'a', 'g', 'e', ' ', 'i', 'd', ' '],
    ['p', 'a', 'c', 'k', 'a', 'g', 'e', ' '],
    ['p', 'k', 'g']]

/-- `label_mentions_package`. -/
def labelMentionsPackage (label : List Char) (packageId : ℤ) : Bool :=
  0 ≤ packageId && phrases.any fun phrase => (phrase ++ Nat.toDigits 10 packageId.toNat) <:+: label

def driverScores : List (List Char × ℤ) :=
  [(['x', '8', '6', '_', 'p', 'k', 'g', '_', 't', 'e', 'm', 'p'], 120),
    (['c', 'o', 'r', 'e', 't', 'e', 'm', 'p'], 110),
    (['k', '1', '0', 't', 'e', 'm', 'p'], 110),
    (['z', 'e', 'n', 'p', 'o', 'w', 'e', 'r'], 105),
    (['c', 'p', 'u'], 50)]

def labelScores : List (List Char × ℤ) :=
  [(['p', 'a', 'c', 'k', 'a', 'g', 'e'], 100),
    (['p', 'k', 'g'], 90),
    (['t', 'c', 't', 'l'], 85),
    (['t', 'd', 'i', 'e'], 80),
    (['c', 'p', 'u'], 50),
    (['c', 'o', 'r', 'e'], 10)]

def wordScore (scores : List (List Char × ℤ)) (text : List Char) : ℤ :=
  ((scores.find? fun entry => entry.1 <:+: text).map Prod.snd).getD 0

/-- `temperature_candidate_score` for a driver. -/
def driverScore (driver : List Char) : ℤ := wordScore driverScores driver

/-- `temperature_candidate_score` for a label. -/
def labelScore (label : List Char) (packageId : ℤ) : ℤ :=
  if labelMentionsPackage label packageId then 150 else wordScore labelScores label

/-- A candidate, and the text that may name its package. -/
structure Sensor where
  candidate : Candidate
  content : List Char

/-- An entry of `/sys/class/thermal`. -/
structure Zone where
  name : List Char
  type : Option (List Char)
  reading : Option ℤ

/-- A file and what it reads. -/
structure Entry where
  name : List Char
  reading : Option ℤ

/-- An entry of `/sys/class/hwmon`. -/
structure Hwmon where
  name : List Char
  driver : Option (List Char)
  labels : ℕ → Option (List Char)
  entries : List Entry

def Zone.path (zone : Zone) : List Char :=
  ['/', 's', 'y', 's', '/', 'c', 'l', 'a', 's', 's', '/', 't', 'h', 'e', 'r', 'm', 'a', 'l', '/'] ++
    zone.name ++ ['/', 't', 'e', 'm', 'p']

def Hwmon.base (hwmon : Hwmon) : List Char :=
  ['/', 's', 'y', 's', '/', 'c', 'l', 'a', 's', 's', '/', 'h', 'w', 'm', 'o', 'n', '/'] ++
    hwmon.name

def Hwmon.path (hwmon : Hwmon) (entry : Entry) : List Char := hwmon.base ++ '/' :: entry.name

/-- `parse_hwmon_temp_input`: the index in the name of an input. -/
def parseHwmonTempInput (name : List Char) : Option ℕ :=
  if ['t', 'e', 'm', 'p'] <+: name then
    let digits := (name.drop 4).takeWhile Char.isDigit
    if digits = [] ∨ 9999 < ofDigits 10 digits then none
    else if (name.drop 4).dropWhile Char.isDigit = ['_', 'i', 'n', 'p', 'u', 't'] then
      some (ofDigits 10 digits)
    else none
  else none

variable (packageId : ℤ)

/-- What `scan_thermal_zones` offers of a zone. -/
def Zone.sensor (zone : Zone) : Option Sensor :=
  if ['t', 'h', 'e', 'r', 'm', 'a', 'l', '_', 'z', 'o', 'n', 'e'] <+: zone.name ∧
      zone.path.length < 320 then
    (readTextFromPath 128 zone.type).bind fun text =>
      let type := lowercaseAscii text
      let score := driverScore type + labelScore type packageId
      if 50 ≤ score then
        some ⟨⟨zone.path, score, labelMentionsPackage type packageId, zone.reading⟩,
          zone.type.getD []⟩
      else none
  else none

/-- What `scan_hwmon` offers of an entry; a label that cannot be read is empty. -/
def Hwmon.sensor (hwmon : Hwmon) (driverScore : ℤ) (entry : Entry) : Option Sensor :=
  (parseHwmonTempInput entry.name).bind fun index =>
    let labelPath := hwmon.base ++ ['/', 't', 'e', 'm', 'p'] ++ Nat.toDigits 10 index ++
      ['_', 'l', 'a', 'b', 'e', 'l']
    if (hwmon.path entry).length < 384 ∧ labelPath.length < 384 then
      let label := ((readTextFromPath 128 (hwmon.labels index)).map lowercaseAscii).getD []
      some ⟨⟨hwmon.path entry, driverScore + labelScore label packageId,
        labelMentionsPackage label packageId, entry.reading⟩, (hwmon.labels index).getD []⟩
    else none

/-- What `scan_hwmon` offers of a hardware monitor. -/
def Hwmon.sensors (hwmon : Hwmon) : List Sensor :=
  if ['h', 'w', 'm', 'o', 'n'] <+: hwmon.name ∧ hwmon.base.length < 320 then
    match readTextFromPath 128 hwmon.driver with
    | none => []
    | some text =>
      let score := driverScore (lowercaseAscii text)
      if score = 0 then [] else hwmon.entries.filterMap (hwmon.sensor packageId score)
  else []

/-- What the scan finds. -/
structure Listing where
  packageId : ℤ
  zones : List Zone
  hwmons : List Hwmon

def Listing.sensors (listing : Listing) : List Sensor :=
  listing.zones.filterMap (Zone.sensor listing.packageId) ++
    listing.hwmons.flatMap (Hwmon.sensors listing.packageId)

/-- Every input has a path of its own, short enough for the buffers. -/
structure Host extends Listing where
  packageCount : ℕ
  short : ∀ sensor ∈ toListing.sensors, sensor.candidate.path.length < pathSize
  distinct : (toListing.sensors.map (·.candidate.path)).Nodup

/-- `detect_temp_sensor`: the path of the sensor it selects. -/
def Host.detectTempSensor (host : Host) : Option (List Char) :=
  (TempCandidateState.scan (host.sensors.map (·.candidate))).select host.packageId host.packageCount

def namedNumbers (text : List Char) : List ℕ :=
  text.tails.flatMap fun rest => phrases.filterMap fun phrase =>
    if phrase <+: rest then
      let digits := (rest.drop phrase.length).takeWhile Char.isDigit
      if digits = [] then none else some (ofDigits 10 digits)
    else none

def Sensor.NamesPackage (sensor : Sensor) (packageId : ℤ) : Prop :=
  ∃ number ∈ namedNumbers (lowercaseAscii (sensor.content.takeWhile (· ≠ '\n'))),
    (number : ℤ) = packageId

instance (sensor : Sensor) (packageId : ℤ) : Decidable (sensor.NamesPackage packageId) :=
  List.decidableBEx _ _

namespace Host

variable (host : Host)

def Identified : Prop :=
  ∀ path, host.detectTempSensor = some path →
    ∃ sensor ∈ host.sensors, sensor.candidate.path = path ∧ sensor.NamesPackage host.packageId

/-- The sensor that decides the scan names the package if it mentions it at all. -/
def Unequivocal : Prop :=
  ∀ before sensor after, host.sensors = before ++ sensor :: after →
    TempCandidateState.Decides (before.map (·.candidate)) sensor.candidate
      (after.map (·.candidate)) →
    sensor.candidate.explicitPackageMatch = true → sensor.NamesPackage host.packageId

end Host

theorem wordScore_nonneg {scores} (nonneg : scores.all (fun entry => 0 ≤ entry.2) = true)
    (text) : 0 ≤ wordScore scores text := by
  unfold wordScore
  cases found : scores.find? fun entry => entry.1 <:+: text with
  | none => exact le_refl _
  | some entry =>
    exact of_decide_eq_true (List.all_eq_true.mp nonneg entry (List.mem_of_find?_eq_some found))

theorem labelScore_nonneg (label) : 0 ≤ labelScore label packageId := by
  unfold labelScore
  split
  · norm_num
  · exact wordScore_nonneg (by decide) label

variable {packageId}

theorem nonneg_of_labelMentionsPackage {label}
    (mentions : labelMentionsPackage label packageId = true) : 0 ≤ packageId := by
  rw [labelMentionsPackage, Bool.and_eq_true] at mentions
  exact of_decide_eq_true mentions.1

/-- A candidate the scan considers. -/
structure Offered (packageId : ℤ) (sensor : Sensor) : Prop where
  named : sensor.candidate.path ≠ []
  score : 0 ≤ sensor.candidate.score
  known : sensor.candidate.explicitPackageMatch = true → 0 ≤ packageId

theorem Zone.offered {zone : Zone} {sensor} (offers : zone.sensor packageId = some sensor) :
    Offered packageId sensor := by
  unfold Zone.sensor at offers
  split at offers
  · obtain ⟨_, -, offers⟩ := Option.bind_eq_some_iff.mp offers
    dsimp only at offers
    split at offers
    · next high =>
        cases Option.some.inj offers
        exact ⟨List.cons_ne_nil _ _, le_trans (by norm_num) high, nonneg_of_labelMentionsPackage⟩
    · cases offers
  · cases offers

theorem Hwmon.offered_sensor {hwmon : Hwmon} {score} (nonneg : 0 ≤ score) {entry sensor}
    (offers : hwmon.sensor packageId score entry = some sensor) :
    Offered packageId sensor := by
  obtain ⟨i, -, offers⟩ := Option.bind_eq_some_iff.mp offers
  dsimp only at offers
  split at offers
  · cases Option.some.inj offers
    exact ⟨List.cons_ne_nil _ _, add_nonneg nonneg (labelScore_nonneg _ _),
      nonneg_of_labelMentionsPackage⟩
  · cases offers

theorem Hwmon.offered {hwmon : Hwmon} {sensor} (offers : sensor ∈ hwmon.sensors packageId) :
    Offered packageId sensor := by
  unfold Hwmon.sensors at offers
  split at offers
  · split at offers
    · exact absurd offers List.not_mem_nil
    · dsimp only at offers
      split at offers
      · exact absurd offers List.not_mem_nil
      · obtain ⟨_, -, offers⟩ := List.mem_filterMap.mp offers
        exact Hwmon.offered_sensor (wordScore_nonneg (by decide) _) offers
  · exact absurd offers List.not_mem_nil

theorem Listing.offered {listing : Listing} {sensor} (offers : sensor ∈ listing.sensors) :
    Offered listing.packageId sensor := by
  rcases List.mem_append.mp offers with zone | hwmon
  · obtain ⟨_, -, offers⟩ := List.mem_filterMap.mp zone
    exact Zone.offered offers
  · obtain ⟨_, -, offers⟩ := List.mem_flatMap.mp hwmon
    exact Hwmon.offered offers

namespace Host

variable (host : Host)

theorem fits : ∀ candidate ∈ host.sensors.map (·.candidate), candidate.Fits := by
  intro candidate mem
  obtain ⟨sensor, offers, rfl⟩ := List.mem_map.mp mem
  exact ⟨(Listing.offered offers).named, host.short sensor offers⟩

theorem detectTempSensor_eq_some_iff (several : 1 < host.packageCount) {path} :
    host.detectTempSensor = some path ↔
      ∃ before sensor after, host.sensors = before ++ sensor :: after ∧
        TempCandidateState.Decides (before.map (·.candidate)) sensor.candidate
          (after.map (·.candidate)) ∧
        sensor.candidate.explicitPackageMatch = true ∧ sensor.candidate.path = path := by
  have short := TempCandidateState.length_path_scan (host.sensors.map (·.candidate))
  have trusted := TempCandidateState.isSome_select short host.packageId host.packageCount
  constructor
  · intro selected
    have path := TempCandidateState.select_eq_some short selected
    obtain ⟨⟨-, holds⟩, explicit, -⟩ := trusted.mp (Option.isSome_of_mem selected)
    obtain ⟨_, _, _, split, decides, held, rank⟩ :=
      TempCandidateState.exists_decides host.fits holds
    obtain ⟨before, _, sensors, rfl, mapped⟩ := List.map_eq_append_iff.mp split
    obtain ⟨sensor, after, rfl, rfl, rfl⟩ := List.map_eq_cons_iff.mp mapped
    refine ⟨before, sensor, after, sensors, decides, ?_, (path.trans held).symm⟩
    have same := (Prod.mk.inj (toLex_inj.mp rank)).2
    by_contra unmentioned
    exact explicit ⟨several, .inr (same.trans (Bool.not_eq_true _ ▸ unmentioned))⟩
  · rintro ⟨before, sensor, after, split, decides, mentions, rfl⟩
    have offered : Offered host.packageId sensor :=
      Listing.offered (split ▸ List.mem_append_right _ List.mem_cons_self)
    have above : TempCandidateState.initial.rank < sensor.candidate.rank :=
      (TempCandidateState.rank_lt_iff _ _).mpr (.inl (lt_of_lt_of_le (by decide) offered.score))
    have fits := host.fits
    rw [split, List.map_append, List.map_cons] at fits
    have res := TempCandidateState.scan_of_decides fits above decides
    rw [← List.map_cons, ← List.map_append, ← split] at res
    obtain ⟨path, rank⟩ := res
    obtain ⟨score, explicit⟩ := Prod.mk.inj (toLex_inj.mp rank)
    have found : host.detectTempSensor.isSome := by
      refine trusted.mpr ⟨⟨score ▸ offered.score, path ▸ offered.named⟩, ?_, ?_⟩
      · rintro ⟨-, unknown | unmentioned⟩
        · exact (offered.known mentions).not_gt unknown
        · exact Bool.false_ne_true (unmentioned.symm.trans (explicit.trans mentions))
      · rintro ⟨-, -, unmentioned⟩
        exact Bool.false_ne_true (unmentioned.symm.trans (explicit.trans mentions))
    obtain ⟨selected, isSelected⟩ := Option.isSome_iff_exists.mp found
    rw [isSelected, TempCandidateState.select_eq_some short isSelected, path]

/-- With several packages, the selected sensor names the package exactly where the deciding sensor
mentions it as a whole number, if at all. -/
theorem package_identity_iff (several : 1 < host.packageCount) :
    host.Identified ↔ host.Unequivocal := by
  constructor
  · intro identified before sensor after split decides mentions
    have selected := (host.detectTempSensor_eq_some_iff several).mpr
      ⟨before, sensor, after, split, decides, mentions, rfl⟩
    obtain ⟨_, member, path, names⟩ := identified _ selected
    have own : sensor ∈ host.sensors := split ▸ List.mem_append_right _ List.mem_cons_self
    rwa [List.inj_on_of_nodup_map host.distinct member own path] at names
  · intro unequivocal path selected
    obtain ⟨before, sensor, after, split, decides, mentions, rfl⟩ :=
      (host.detectTempSensor_eq_some_iff several).mp selected
    exact ⟨sensor, split ▸ List.mem_append_right _ List.mem_cons_self, rfl,
      unequivocal before sensor after split decides mentions⟩

end Host

def coretempEntry : Entry := ⟨['t', 'e', 'm', 'p', '1', '_', 'i', 'n', 'p', 'u', 't'], some 45000⟩

def coretemp (label : List Char) : Hwmon where
  name := ['h', 'w', 'm', 'o', 'n', '0']
  driver := some ['c', 'o', 'r', 'e', 't', 'e', 'm', 'p']
  labels := fun index => if index = 1 then some label else none
  entries := [coretempEntry]

theorem paths_coretemp (label) :
    (Listing.sensors ⟨1, [], [coretemp label]⟩).map (·.candidate.path) =
      [(coretemp []).path coretempEntry] := by
  rfl

def coretempHost (label : List Char) : Host where
  packageId := 1
  zones := []
  hwmons := [coretemp label]
  packageCount := 11
  short := by
    intro sensor member
    have path := List.mem_map_of_mem (f := (·.candidate.path)) member
    rw [paths_coretemp, List.mem_singleton] at path
    rw [path]
    decide
  distinct := by
    rw [paths_coretemp]
    exact List.nodup_singleton _

def packageLabel (number : List Char) : List Char :=
  ['P', 'a', 'c', 'k', 'a', 'g', 'e', ' ', 'i', 'd', ' '] ++ number

theorem package_1_identified : (coretempHost (packageLabel ['1'])).Identified := by
  refine (Host.package_identity_iff _ (by decide)).mpr fun before sensor after split _ _ => ?_
  have member := split ▸ List.mem_append_right before List.mem_cons_self
  have named : (coretempHost (packageLabel ['1'])).sensors.all
      (fun sensor => sensor.NamesPackage 1) = true := by decide +kernel
  exact of_decide_eq_true (List.all_eq_true.mp named sensor member)

/-- The sensor of package 10 is selected for package 1. -/
theorem package_10_taken_for_1 :
    let host := coretempHost (packageLabel ['1', '0'])
    1 < host.packageCount ∧ host.packageId = 1 ∧
      host.detectTempSensor = some ((coretemp []).path coretempEntry) ∧
      host.sensors.map (fun sensor => namedNumbers (lowercaseAscii sensor.content)) = [[10]] ∧
      ¬ host.Identified := by
  intro host
  have selected : host.detectTempSensor = some ((coretemp []).path coretempEntry) := by
    decide +kernel
  have unnamed : host.sensors.all (fun sensor => ¬ sensor.NamesPackage 1) = true := by
    decide +kernel
  refine ⟨by decide, rfl, selected, by decide +kernel, fun identified => ?_⟩
  obtain ⟨sensor, member, -, names⟩ := identified _ selected
  exact of_decide_eq_true (List.all_eq_true.mp unnamed sensor member) names

end Sensors
end ThermalSimd
