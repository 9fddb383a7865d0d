import ULocalMagnitude.Cxx.Streams
import ULocalMagnitude.ProgramOptions
import ULocalMagnitude.Rationals

/-!
# Settings and their defaults

A setting that is written in a file has its value, or the file is refused; the default only
stands for what is absent.  The server's loader keeps to this, but for ports with a minus: they
are read modulo 65536.  A datum that is no number is replaced by zero, and the minimum of
station magnitudes is dropped: it is two whatever the file says.
-/

namespace ULocalMagnitude
namespace Properties

open Cxx Configuration Corrections Grpc
open DistanceOptions (StartsWithNumbers Accepts DatumInRange IsUnsortable datumIn
  readInterpolation readDistanceType)
open ProgramOptions (parseInitializationFile minimumIn CanBeParsed HasUnsortableDistances)

variable {F : Type} [ExactArithmetic F]

/-- The translators behind `get_optional<T>` are the extractions of the standard library. -/
structure ReadsNumbers (platform : Platform F) : Prop where
  toInt : platform.boost.toInt = extractInt
  toUInt16 : platform.boost.toUInt16 = extractUInt16
  toDouble : platform.toDouble = extractDouble

/-- The text is a number of type `int`. -/
def IsIntText (text : Bytes) (value : Int) : Prop := IsInteger text value ∧ InInt value

/-- The text is a number of type `uint16_t`. -/
def IsUInt16Text (text : Bytes) (value : UInt16) : Prop := IsInteger text value.toNat

/-- The text is a number of type `double`. -/
def IsDoubleText (text : Bytes) (value : Double F) : Prop :=
  ∃ x : F, IsDecimal text x ∧ |x| < ((2 ^ 1024 - 2 ^ 970 : Nat) : F) ∧ .finite x = value

/-- An option is what is written under its key, or the default where nothing is written;
a text that is no value is refused. -/
structure Respects {α β : Type} (load : Throws α) (propertyTree : PropertyTree)
    (IsText : Bytes → β → Prop) (key : Bytes) (defaultValue : β) (option : α → β) :
    Prop where
  refused : ∀ text, propertyTree key = some text → (¬ ∃ value, IsText text value) →
    ∃ fault, load = .error fault ∧ fault.IsException
  written : ∀ options text, load = .ok options → propertyTree key = some text →
    IsText text (option options)
  absent : ∀ options, load = .ok options → propertyTree key = none →
    option options = defaultValue

/-- The numbers that shape magnitudes or the server. -/
inductive Setting where
  | datumInMeters
  | minimumNumberOfStationMagnitudes
  | port
  | maximumRequestMessageSizeInBytes
  | maximumConnectionAgeInMilliSeconds
  | maximumConnectionAgeGracePeriodInMilliSeconds

/-- The options of the server respect the setting with the name. -/
def RespectsServer {β : Type} (platform : Platform F) (iniFile sectionIn : Bytes)
    (propertyTree : PropertyTree) (IsText : Bytes → β → Prop) (name : String)
    (defaultValue : β) (option : ServerOptions → β) : Prop :=
  Respects
    (ServerOptions.fromInitializationFile platform.files platform.boost iniFile sectionIn)
    propertyTree IsText (sectionPrefix sectionIn ++ bytes name) defaultValue option

section Settings

variable (platform : Platform F) (iniFile sectionIn : Bytes) (propertyTree : PropertyTree)

/-- The loader of the setting respects it. -/
def Setting.IsRespected : Setting → Prop
  | .datumInMeters =>
      readDistanceType propertyTree (sectionPrefix sectionIn) = .ok .hypocentral →
        Respects
          (DistanceOptions.fromInitializationFile platform.files platform.boost
            platform.toDouble iniFile sectionIn)
          propertyTree IsDoubleText (sectionPrefix sectionIn ++ bytes "datumInMeters")
          (.finite 0) DistanceOptions.getDatum
  | .minimumNumberOfStationMagnitudes =>
      Respects (parseInitializationFile platform iniFile) propertyTree IsIntText
        (bytes "NetworkMagnitude.minimumNumberOfStationMagnitudes") 2
        fun options =>
          options.networkMagnitudeCalculatorOptions.getMinimumNumberOfStationMagnitudes
  | .port =>
      RespectsServer platform iniFile sectionIn propertyTree IsUInt16Text "port" 50000
        ServerOptions.getPort
  | .maximumRequestMessageSizeInBytes =>
      RespectsServer platform iniFile sectionIn propertyTree IsIntText
        "maximumRequestMessageSizeInBytes" 65536
        ServerOptions.getMaximumRequestMessageSizeInBytes
  | .maximumConnectionAgeInMilliSeconds =>
      RespectsServer platform iniFile sectionIn propertyTree IsIntText
        "maximumConnectionAgeInMilliSeconds" 120000 ServerOptions.getMaximumConnectionAge
  | .maximumConnectionAgeGracePeriodInMilliSeconds =>
      RespectsServer platform iniFile sectionIn propertyTree IsIntText
        "maximumConnectionAgeGracePeriodInMilliSeconds" 2000
        ServerOptions.getMaximumConnectionAgeGracePeriod

/-- The section has an interpolation and a table that is not refused with an exception. -/
structure HasTable (F : Type) [ExactArithmetic F] (propertyTree : PropertyTree)
    (sectionName : Bytes) : Prop where
  interpolation : ∃ interpolation, readInterpolation propertyTree sectionName = .ok interpolation
  rows : ∃ rows : List (Double F × Double F), List.Forall₂ StartsWithNumbers
      (rowsOf (DistanceOptions.itemName sectionName) propertyTree) rows ∧
    (Accepts rows ∨ IsUnsortable rows)

/-- The setting is neither replaced by its default nor by another number: where nothing else in
the file is refused, the datum is a number, the minimum is two or a number that is refused, and
the port has no minus in front of the numbers of its type. -/
def Setting.IsSafe : Setting → Prop
  | .datumInMeters =>
      readDistanceType propertyTree (sectionPrefix sectionIn) = .ok .hypocentral →
        HasTable F propertyTree (sectionPrefix sectionIn) →
          ∀ text, propertyTree (sectionPrefix sectionIn ++ bytes "datumInMeters") = some text →
            ∃ value : Double F, IsDoubleText text value
  | .minimumNumberOfStationMagnitudes =>
      ∀ text, propertyTree (bytes "NetworkMagnitude.minimumNumberOfStationMagnitudes") =
          some text →
        (CanBeParsed platform propertyTree →
          ∃ minimum, IsIntText text minimum ∧ (minimum = 2 ∨ minimum < 1)) ∧
        (HasUnsortableDistances platform propertyTree → ∃ minimum, IsIntText text minimum)
  | .port =>
      (∃ options, ServerOptions.ReadsBesidePort platform.files platform.boost propertyTree
        (sectionPrefix sectionIn) options) →
        ∀ text, propertyTree (sectionPrefix sectionIn ++ bytes "port") = some text →
          ∀ number : Nat, 1 ≤ number → number < 2 ^ 16 → ¬ IsInteger text (-number)
  | .maximumRequestMessageSizeInBytes => True
  | .maximumConnectionAgeInMilliSeconds => True
  | .maximumConnectionAgeGracePeriodInMilliSeconds => True

end Settings

/-! ## Texts -/

section Texts

variable {platform : Platform F} (hnumbers : ReadsNumbers platform) {text : Bytes}

include hnumbers

theorem toInt_eq_some_iff {value : Int} :
    platform.boost.toInt text = some value ↔ IsIntText text value := by
  rw [hnumbers.toInt]
  exact extractInt_eq_some_iff

theorem toDouble_eq_some_iff {value : Double F} :
    platform.toDouble text = some value ↔ IsDoubleText text value := by
  rw [hnumbers.toDouble]
  exact extractDouble_eq_some_iff

/-- Ports without a minus are read as what they are. -/
theorem toUInt16_eq_some_iff {value : UInt16}
    (hsafe : ∀ number : Nat, 1 ≤ number → number < 2 ^ 16 → ¬ IsInteger text (-number)) :
    platform.boost.toUInt16 text = some value ↔ IsUInt16Text text value := by
  rw [hnumbers.toUInt16, extractUInt16_eq_some_iff]
  unfold IsUInt16Text
  constructor
  · rintro ⟨z, hz, hrange, rfl⟩
    have hnonneg : 0 ≤ z := by
      by_contra hneg
      refine hsafe z.natAbs (by omega) hrange ?_
      rwa [show -(z.natAbs : Int) = z by omega]
    have hvalue : ((UInt16.ofInt z).toNat : Int) = z := by
      rw [UInt16.ofInt, UInt16.toNat_ofNat']
      omega
    rwa [hvalue]
  · intro hvalue
    refine ⟨value.toNat, hvalue, value.toNat_lt, ?_⟩
    rw [ofInt_natCast, UInt16.ofNat_toNat]

/-- A port with a minus is subtracted from zero. -/
theorem toUInt16_of_minus {number : Nat} (hpositive : 1 ≤ number) (hrange : number < 2 ^ 16)
    (htext : IsInteger text (-number)) :
    ∃ port, platform.boost.toUInt16 text = some port ∧ port ≠ 0 := by
  refine ⟨UInt16.ofInt (-number), ?_, ?_⟩
  · rw [hnumbers.toUInt16, extractUInt16_eq_some_iff]
    exact ⟨-number, htext, by omega, rfl⟩
  · intro hzero
    have htoNat := congrArg UInt16.toNat hzero
    rw [UInt16.ofInt, UInt16.toNat_ofNat'] at htoNat
    have hzero' : (0 : UInt16).toNat = 0 := rfl
    omega

end Texts

/-! ## The server -/

/-- What is read with `getOrDefault` is respected, as far as the translator finds what is
written. -/
theorem respects_of_getOrDefault {α β : Type} {load : Throws α} {propertyTree : PropertyTree}
    {translate : Bytes → Option β} {IsText : Bytes → β → Prop} {key : Bytes} {defaultValue : β}
    {option : α → β} (hraises : Raises load Fault.IsException)
    (hload : ∀ options, load = .ok options →
      ServerOptions.getOrDefault propertyTree translate key defaultValue =
          .ok (option options) ∧
        ∀ text, propertyTree key = some text → ∀ value,
          translate text = some value ↔ IsText text value) :
    Respects load propertyTree IsText key defaultValue option := by
  have hwritten : ∀ options text, load = .ok options → propertyTree key = some text →
      IsText text (option options) := by
    intro options text hoptions htext
    obtain ⟨hread, htranslate⟩ := hload options hoptions
    rw [ServerOptions.getOrDefault, htext] at hread
    dsimp only at hread
    rw [PropertyTree.getOptional, htext, Option.bind_some, require_eq_ok] at hread
    exact (htranslate text htext _).mp hread
  refine ⟨?_, hwritten, ?_⟩
  · intro text htext hvalue
    refine hraises.exists_error ?_
    rintro ⟨options, hoptions⟩
    exact hvalue ⟨_, hwritten options text hoptions htext⟩
  · intro options hoptions hnone
    have hread := (hload options hoptions).1
    rw [ServerOptions.getOrDefault, hnone] at hread
    exact (Except.ok.inj hread).symm

section Server

variable {platform : Platform F} {iniFile sectionIn : Bytes} {propertyTree : PropertyTree}
  (hread : platform.boost.readIni iniFile = .ok propertyTree)

include hread

omit [ExactArithmetic F] in
theorem respectsServer {β : Type} {translate : Bytes → Option β} {IsText : Bytes → β → Prop}
    {name : String} {defaultValue : β} {option : ServerOptions → β}
    (hoption : ∀ options, ServerOptions.Reads platform.files platform.boost propertyTree
        (sectionPrefix sectionIn) options →
      ServerOptions.getOrDefault propertyTree translate
          (sectionPrefix sectionIn ++ bytes name) defaultValue = .ok (option options) ∧
        ∀ text, propertyTree (sectionPrefix sectionIn ++ bytes name) = some text → ∀ value,
          translate text = some value ↔ IsText text value) :
    RespectsServer platform iniFile sectionIn propertyTree IsText name defaultValue
      option := by
  have hreads : ∀ options, ServerOptions.fromInitializationFile platform.files platform.boost
      iniFile sectionIn = .ok options → ServerOptions.Reads platform.files platform.boost
        propertyTree (sectionPrefix sectionIn) options := by
    intro options hoptions
    obtain ⟨_, htree, hreads⟩ := ServerOptions.reads_of_fromInitializationFile hoptions
    rw [hread] at htree
    obtain rfl := Except.ok.inj htree
    exact hreads
  exact respects_of_getOrDefault (ServerOptions.raises_fromInitializationFile hread)
    fun options hoptions => hoption options (hreads options hoptions)

theorem port_is_respected_iff (hexists : platform.files.doesExist iniFile = true)
    (hnumbers : ReadsNumbers platform) :
    Setting.port.IsRespected platform iniFile sectionIn propertyTree ↔
      Setting.port.IsSafe platform sectionIn propertyTree := by
  constructor
  · rintro h ⟨options, hrest⟩ text htext number hpositive hrange hinteger
    -- The port is read modulo 65536, and the file is loaded with it.
    obtain ⟨port, hport, hnonzero⟩ := toUInt16_of_minus hnumbers hpositive hrange hinteger
    have hget : ServerOptions.getOrDefault propertyTree platform.boost.toUInt16
        (sectionPrefix sectionIn ++ bytes "port") 50000 = .ok port := by
      rw [ServerOptions.getOrDefault, htext]
      dsimp only
      rw [PropertyTree.getOptional, htext, Option.bind_some, hport]
      rfl
    have hloaded := ServerOptions.fromInitializationFile_of_reads hexists hread
      (hrest.withPort hget hnonzero)
    have hwritten := (h.written _ text hloaded htext).unique hinteger
    omega
  · intro hsafe
    exact respectsServer hread fun options hreads =>
      ⟨hreads.port, fun text htext _ => toUInt16_eq_some_iff hnumbers
        (hsafe ⟨options, hreads.toReadsBesidePort⟩ text htext)⟩

end Server

/-! ## The datum and the minimum -/

section Loaders

variable {platform : Platform F} {iniFile sectionIn : Bytes} {propertyTree : PropertyTree}
  (hexists : platform.files.doesExist iniFile = true)
  (hread : platform.boost.readIni iniFile = .ok propertyTree)

include hexists hread

/-- A hypocentral section is loaded when it has a table and its datum is in the range. -/
theorem datum_eq_ok {options : DistanceOptions F}
    (htype : readDistanceType propertyTree (sectionPrefix sectionIn) = .ok .hypocentral)
    (h : DistanceOptions.fromInitializationFile platform.files platform.boost platform.toDouble
      iniFile sectionIn = .ok options) :
    HasTable F propertyTree (sectionPrefix sectionIn) ∧
      datumIn platform.toDouble propertyTree (sectionPrefix sectionIn) = options.getDatum := by
  obtain ⟨interpolation, type, rows, hinterpolation, htype', -, hstarts, haccepts, rfl⟩ :=
    (DistanceOptions.fromInitializationFile_eq_ok hexists hread).mp h
  rw [htype] at htype'
  obtain rfl := Except.ok.inj htype'
  exact ⟨⟨⟨interpolation, hinterpolation⟩, rows, hstarts, Or.inl haccepts⟩, rfl⟩

/-- Without a datum that can be read the section is not refused with an exception. -/
theorem not_refused_of_mistyped_datum
    (htype : readDistanceType propertyTree (sectionPrefix sectionIn) = .ok .hypocentral)
    (htable : HasTable F propertyTree (sectionPrefix sectionIn))
    (hdatum : datumIn platform.toDouble propertyTree (sectionPrefix sectionIn) = .finite 0)
    {fault : Fault} (hthrown : DistanceOptions.fromInitializationFile platform.files
      platform.boost platform.toDouble iniFile sectionIn = .error fault) :
    ¬ fault.IsException := by
  obtain ⟨⟨interpolation, hinterpolation⟩, rows, hstarts, hrows⟩ := htable
  -- The default of the datum is in its range.
  have hrange : DatumInRange .hypocentral
      (datumIn platform.toDouble propertyTree (sectionPrefix sectionIn)) := by
    rw [hdatum]
    intro _
    refine ⟨rfl, ?_⟩
    have hlow : (-10000 : F) ≤ 0 := by norm_num
    have hhigh : (0 : F) ≤ 8600 := by norm_num
    exact not_or.mpr ⟨not_lt.mpr hlow, not_lt.mpr hhigh⟩
  rcases hrows with haccepts | hunsortable
  · have hloaded := (DistanceOptions.fromInitializationFile_eq_ok hexists hread).mpr
      ⟨interpolation, .hypocentral, rows, hinterpolation, htype, hrange, hstarts, haccepts, rfl⟩
    rw [hthrown] at hloaded
    cases hloaded
  · have hundefined := DistanceOptions.fromInitializationFile_of_unsortable hexists hread
      ⟨interpolation, .hypocentral, rows, hinterpolation, htype, hrange, hstarts, hunsortable⟩
    rw [hthrown] at hundefined
    obtain rfl := Except.error.inj hundefined
    exact id

theorem datum_is_respected_iff (hnumbers : ReadsNumbers platform) :
    Setting.datumInMeters.IsRespected platform iniFile sectionIn propertyTree ↔
      Setting.datumInMeters.IsSafe platform sectionIn propertyTree := by
  have hnone {text : Bytes} (hvalue : ¬ ∃ value : Double F, IsDoubleText text value) :
      platform.toDouble text = none := by
    refine Option.eq_none_iff_forall_ne_some.mpr fun value hsome => hvalue ?_
    exact ⟨value, (toDouble_eq_some_iff hnumbers).mp hsome⟩
  constructor
  · intro h htype htable text htext
    by_contra hvalue
    obtain ⟨_, hthrown, hexception⟩ := (h htype).refused text htext hvalue
    exact not_refused_of_mistyped_datum hexists hread htype htable
      (PropertyTree.getValue_of_no_value htext (hnone hvalue)) hthrown hexception
  · intro hsafe htype
    refine ⟨?_, ?_, ?_⟩
    · intro text htext hvalue
      -- Neither is the section loaded, nor does it get as far as sorting a table in vain.
      have hnoTable : ¬ HasTable F propertyTree (sectionPrefix sectionIn) :=
        fun htable => hvalue (hsafe htype htable text htext)
      cases hload : DistanceOptions.fromInitializationFile platform.files platform.boost
          platform.toDouble iniFile sectionIn with
      | ok options => exact absurd (datum_eq_ok hexists hread htype hload).1 hnoTable
      | error fault =>
          refine ⟨fault, rfl, ?_⟩
          rcases DistanceOptions.raises_fromInitializationFile hread fault hload with
            hexception | ⟨-, interpolation, _, rows, hinterpolation, -, -, hstarts, hunsortable⟩
          · exact hexception
          · exact absurd ⟨⟨interpolation, hinterpolation⟩, rows, hstarts, Or.inr hunsortable⟩
              hnoTable
    · intro options text hoptions htext
      obtain ⟨htable, hdatum⟩ := datum_eq_ok hexists hread htype hoptions
      obtain ⟨value, hvalue⟩ := hsafe htype htable text htext
      rw [← hdatum, datumIn, PropertyTree.getValue_of_some htext
        ((toDouble_eq_some_iff hnumbers).mpr hvalue)]
      exact hvalue
    · intro options hoptions habsent
      rw [← (datum_eq_ok hexists hread htype hoptions).2, datumIn,
        PropertyTree.getValue_of_none habsent]

theorem minimum_is_respected_iff (hnumbers : ReadsNumbers platform) :
    Setting.minimumNumberOfStationMagnitudes.IsRespected platform iniFile sectionIn
        propertyTree ↔
      Setting.minimumNumberOfStationMagnitudes.IsSafe platform sectionIn propertyTree := by
  have hparsed := ProgramOptions.exists_parseInitializationFile hexists hread
  -- What is parsed has the default.
  have hdefault {options : ProgramOptions F}
      (hoptions : parseInitializationFile platform iniFile = .ok options) :
      options.networkMagnitudeCalculatorOptions.getMinimumNumberOfStationMagnitudes = 2 := by
    rw [(ProgramOptions.services_of_parseInitializationFile hexists hoptions).2]
    rfl
  -- The default passes the check of the setter.
  have hmistyped {text : Bytes} (htext : propertyTree
        (bytes "NetworkMagnitude.minimumNumberOfStationMagnitudes") = some text)
      (hvalue : ¬ ∃ minimum, IsIntText text minimum) :
      1 ≤ minimumIn platform.boost propertyTree := by
    have hnone : platform.boost.toInt text = none :=
      Option.eq_none_iff_forall_ne_some.mpr fun value hsome =>
        hvalue ⟨value, (toInt_eq_some_iff hnumbers).mp hsome⟩
    rw [minimumIn, PropertyTree.getValue_of_no_value htext hnone]
    decide
  have hminimum {text : Bytes} {minimum : Int} (htext : propertyTree
        (bytes "NetworkMagnitude.minimumNumberOfStationMagnitudes") = some text)
      (hvalue : IsIntText text minimum) : minimumIn platform.boost propertyTree = minimum := by
    rw [minimumIn, PropertyTree.getValue_of_some htext ((toInt_eq_some_iff hnumbers).mpr hvalue)]
  constructor
  · intro h text htext
    have hwritten : HasUnsortableDistances platform propertyTree ∨
        CanBeParsed platform propertyTree → ∃ minimum, IsIntText text minimum := by
      intro hrest
      by_contra hvalue
      obtain ⟨fault, hthrown, hexception⟩ := h.refused text htext hvalue
      rcases hrest with hunsortable | hrest
      · rw [ProgramOptions.parseInitializationFile_of_unsortable hexists hread
          (hmistyped htext hvalue) hunsortable] at hthrown
        obtain rfl := Except.error.inj hthrown
        exact hexception
      · obtain ⟨options, hoptions⟩ := hparsed.mpr ⟨hmistyped htext hvalue, hrest⟩
        rw [hthrown] at hoptions
        cases hoptions
    refine ⟨fun hrest => ?_, fun hunsortable => hwritten (Or.inl hunsortable)⟩
    obtain ⟨minimum, hvalue⟩ := hwritten (Or.inr hrest)
    refine ⟨minimum, hvalue, ?_⟩
    -- A minimum below one is refused by the setter; any other one is lost.
    by_cases hsmall : minimum < 1
    · exact Or.inr hsmall
    · have hpositive : 1 ≤ minimumIn platform.boost propertyTree := by
        rw [hminimum htext hvalue]
        exact Int.not_lt.mp hsmall
      obtain ⟨options, hoptions⟩ := hparsed.mpr ⟨hpositive, hrest⟩
      have htwo := h.written options text hoptions htext
      rw [hdefault hoptions] at htwo
      exact Or.inl (hvalue.1.unique htwo.1)
  · intro hsafe
    -- A text under the key of a file that is parsed is the number two.
    have htwo {options : ProgramOptions F} {text : Bytes}
        (hoptions : parseInitializationFile platform iniFile = .ok options)
        (htext : propertyTree
          (bytes "NetworkMagnitude.minimumNumberOfStationMagnitudes") = some text) :
        IsIntText text 2 := by
      obtain ⟨hpositive, hrest⟩ := hparsed.mp ⟨options, hoptions⟩
      obtain ⟨minimum, hvalue, rfl | hsmall⟩ := (hsafe text htext).1 hrest
      · exact hvalue
      · rw [hminimum htext hvalue] at hpositive
        exact absurd hpositive (Int.not_le.mpr hsmall)
    refine ⟨?_, ?_, ?_⟩
    · intro text htext hvalue
      cases hload : parseInitializationFile platform iniFile with
      | ok options => exact absurd ⟨2, htwo hload htext⟩ hvalue
      | error fault =>
          refine ⟨fault, rfl, ?_⟩
          rcases ProgramOptions.raises_parseInitializationFile hexists hread fault hload with
            hexception | ⟨-, hunsortable⟩
          · exact hexception
          · exact absurd ((hsafe text htext).2 hunsortable) hvalue
    · intro options text hoptions htext
      rw [hdefault hoptions]
      exact htwo hoptions htext
    · intro options hoptions _
      exact hdefault hoptions

end Loaders

/-- Every setting is respected exactly when it is safe. -/
theorem setting_is_respected_iff (platform : Platform F) (hnumbers : ReadsNumbers platform)
    (iniFile sectionIn : Bytes) (propertyTree : PropertyTree)
    (hexists : platform.files.doesExist iniFile = true)
    (hread : platform.boost.readIni iniFile = .ok propertyTree) (setting : Setting) :
    setting.IsRespected platform iniFile sectionIn propertyTree ↔
      setting.IsSafe platform sectionIn propertyTree := by
  cases setting with
  | datumInMeters => exact datum_is_respected_iff hexists hread hnumbers
  | minimumNumberOfStationMagnitudes => exact minimum_is_respected_iff hexists hread hnumbers
  | port => exact port_is_respected_iff hread hexists hnumbers
  | maximumRequestMessageSizeInBytes =>
      exact iff_of_true (respectsServer hread fun _ h =>
        ⟨h.maximumRequestMessageSize, fun _ _ _ => toInt_eq_some_iff hnumbers⟩) trivial
  | maximumConnectionAgeInMilliSeconds =>
      exact iff_of_true (respectsServer hread fun _ h =>
        ⟨h.maximumConnectionAge, fun _ _ _ => toInt_eq_some_iff hnumbers⟩) trivial
  | maximumConnectionAgeGracePeriodInMilliSeconds =>
      exact iff_of_true (respectsServer hread fun _ h =>
        ⟨h.maximumGracePeriod, fun _ _ _ => toInt_eq_some_iff hnumbers⟩) trivial

/-! ## A datum with a unit and a port with a minus -/

/-- A file without sections: hypocentral corrections with one row and a datum, and a port. -/
def fileTree (datum port : Bytes) : PropertyTree := fun path =>
  if path = bytes "interpolation" then some (bytes "nearest")
  else if path = bytes "distanceType" then some (bytes "hypocentral")
  else if path = bytes "datumInMeters" then some datum
  else if path = bytes "distance_correction_1" then some (bytes "5000, 1.4")
  else if path = bytes "port" then some port
  else none

def filePlatform (datum port : Bytes) : Platform ℚ where
  files := { doesExist := fun _ => true, contents := fun _ => none }
  boost :=
    { readIni := fun _ => .ok (fileTree datum port)
      toInt := extractInt
      toUInt16 := extractUInt16
      toBool := fun _ => none }
  toDouble := extractDouble
  environment := { toInt64 := fun _ => none, getenv := fun _ => none, withOtlpGrpc := false }

/-- A datum of a thousand meters and the port 8080 are respected. -/
theorem written_numbers_are_respected :
    Setting.datumInMeters.IsRespected (filePlatform (bytes "1e3") (bytes "8080")) (bytes "ini")
        [] (fileTree (bytes "1e3") (bytes "8080")) ∧
      Setting.port.IsRespected (filePlatform (bytes "1e3") (bytes "8080")) (bytes "ini") []
        (fileTree (bytes "1e3") (bytes "8080")) := by
  have hiff := setting_is_respected_iff (filePlatform (bytes "1e3") (bytes "8080"))
    ⟨rfl, rfl, rfl⟩ (bytes "ini") [] (fileTree (bytes "1e3") (bytes "8080")) rfl rfl
  have hwritten : fileTree (bytes "1e3") (bytes "8080") (bytes "datumInMeters") =
        some (bytes "1e3") ∧
      fileTree (bytes "1e3") (bytes "8080") (bytes "port") = some (bytes "8080") ∧
      extractDouble (bytes "1e3") = some (.finite (1000 : ℚ)) ∧
      extractInt (bytes "8080") = some 8080 := by
    decide +kernel
  obtain ⟨hdatum, hport, hdouble, hint⟩ := hwritten
  refine ⟨(hiff .datumInMeters).mpr ?_, (hiff .port).mpr ?_⟩
  · intro _ _ text htext
    obtain rfl := Option.some.inj (htext.symm.trans hdatum)
    exact ⟨_, extractDouble_eq_some_iff.mp hdouble⟩
  · intro _ text htext number _ _ hminus
    obtain rfl := Option.some.inj (htext.symm.trans hport)
    have hsame := (extractInt_eq_some_iff.mp hint).1.unique hminus
    omega

/-- A datum of one kilometer is read as zero, and the port -5000 as 60536. -/
theorem kilometer_and_minus_are_replaced :
    ¬ Setting.datumInMeters.IsRespected (filePlatform (bytes "1km") (bytes "-5000"))
        (bytes "ini") [] (fileTree (bytes "1km") (bytes "-5000")) ∧
      ¬ Setting.port.IsRespected (filePlatform (bytes "1km") (bytes "-5000")) (bytes "ini") []
        (fileTree (bytes "1km") (bytes "-5000")) := by
  constructor
  · intro h
    have hloaded :
        readDistanceType (fileTree (bytes "1km") (bytes "-5000")) [] = .ok .hypocentral ∧
          fileTree (bytes "1km") (bytes "-5000") (bytes "datumInMeters") =
            some (bytes "1km") ∧
          extractDouble (bytes "1km") = (none : Option (Double ℚ)) ∧
            (DistanceOptions.fromInitializationFile
              (filePlatform (bytes "1km") (bytes "-5000")).files
              (filePlatform (bytes "1km") (bytes "-5000")).boost
              (filePlatform (bytes "1km") (bytes "-5000")).toDouble (bytes "ini") []).isOk =
                true := by
      decide +kernel
    obtain ⟨htype, hwritten, hnone, hok⟩ := hloaded
    have hvalue : ¬ ∃ value : Double ℚ, IsDoubleText (bytes "1km") value := by
      rintro ⟨value, hvalue⟩
      rw [extractDouble_eq_some_iff.mpr hvalue] at hnone
      cases hnone
    obtain ⟨_, hthrown, -⟩ := (h htype).refused (bytes "1km") hwritten hvalue
    rw [hthrown] at hok
    cases hok
  · intro h
    have hloaded :
        fileTree (bytes "1km") (bytes "-5000") (bytes "port") = some (bytes "-5000") ∧
          extractInt (bytes "-5000") = some (-5000) ∧
            (ServerOptions.fromInitializationFile
              (filePlatform (bytes "1km") (bytes "-5000")).files
              (filePlatform (bytes "1km") (bytes "-5000")).boost (bytes "ini") []).isOk =
                true := by
      decide +kernel
    obtain ⟨hwritten, hint, hok⟩ := hloaded
    have hoptions := Rationals.eq_ok_of_isOk hok {}
    have hsame := (h.written _ (bytes "-5000") hoptions hwritten).unique
      (extractInt_eq_some_iff.mp hint).1
    omega

end Properties
end ULocalMagnitude
