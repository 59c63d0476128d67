/-
What a command line opens.

A launch ends in one of three ways that are foreseen: it is refused, with the reason; it shows the
usage; or it opens one window on a console that runs the program.  It depends on the command line
and on the file that it names which of them it is.  There is a fourth way: the file is there but
cannot be read, or no picture can be made at the scale, and the error that says so escapes.

* `Refusal`, `Playable`, `Escape`, `prospects` : what a command line and its host come to;
* `ofArgs_of_refusal`, `ofArgs_of_playable`, `ofArgs_of_escape` : what a launch makes of it;
* `Picturing`, `Escape.of_large` : what is known of pictures, and the scales without any;
* `proper_iff_no_escape` : a launch ends as foreseen exactly if no error escapes.
-/
import Chip8.Launch
import Chip8.Proofs.Console.Boot
import Mathlib.Tactic.Linarith

namespace Chip8

/-- The request opens a window. -/
def Request.opens : Request → Bool
  | openWindow .. => true
  | _ => false

namespace Launch

variable {host : Host} {args : List String}

/-! ### What there is to be shown -/

/-- The command line has these options, and the file that they name is there, with a size that a
program can have. -/
structure Named (host : Host) (args : List String) (options : CommandLine.Options) (file : File) :
    Prop where
  asked : (CommandLine.parse false args).result = .ok (some options)
  found : host.file? options.rom = some file
  small : file.size ≤ 3584

/-- What is logged before a file is read, if the command line turns the logs on. -/
def announced (args : List String) (options : CommandLine.Options) : String :=
  logged (CommandLine.parse false args).logsOn #[Cartridge.loadingLine options.rom]

/-- What is printed about a command line that cannot be read, or that names a file that is not there
or is longer than the longest program.  That it is longer may show only when it has been read. -/
inductive Refusal (host : Host) (args : List String) : String → Prop
  | argument {e : CommandLine.ArgError} (h : (CommandLine.parse false args).result = .error e) :
      Refusal host args (e.message ++ "\n" ++ CommandLine.usage)
  | missing {options : CommandLine.Options}
      (h : (CommandLine.parse false args).result = .ok (some options))
      (hfile : host.file? options.rom = none) :
      Refusal host args ((Error.notFound options.rom).message ++ "\n")
  | tooLarge {options : CommandLine.Options} {file : File}
      (h : (CommandLine.parse false args).result = .ok (some options))
      (hfile : host.file? options.rom = some file) (hlarge : 3584 < file.size) :
      Refusal host args ((Error.tooLarge file.size 3584).message ++ "\n")
  | tooLong {options : CommandLine.Options} {file : File} {bytes : List UInt8}
      (h : Named host args options file) (hread : file.content = .ok bytes)
      (hlong : 3584 < bytes.length) :
      Refusal host args
        (announced args options ++ ((Error.tooLarge bytes.length 3584).message ++ "\n"))

theorem Named.unique {options options' : CommandLine.Options} {file file' : File}
    (h : Named host args options file) (h' : Named host args options' file') :
    options = options' ∧ file = file' := by
  obtain rfl : options = options' :=
    Option.some.inj (Except.ok.inj (h.asked.symm.trans h'.asked))
  exact ⟨rfl, Option.some.inj (h.found.symm.trans h'.found)⟩

/-- The command line has these options, and the file that they name has these bytes, few enough for
a program. -/
structure Playable (host : Host) (args : List String) (options : CommandLine.Options)
    (bytes : List UInt8) : Prop where
  read : ∃ file, Named host args options file ∧ file.content = .ok bytes
  fits : bytes.length ≤ 3584

/-- The errors for which nothing has been provided: of a file that is there but cannot be read, and
of a picture that cannot be made. -/
inductive Escape (host : Host) (args : List String) : Error → Prop
  | unreadable {options : CommandLine.Options} {file : File} {failure : Failure}
      (h : Named host args options file) (hread : file.content = .error failure) :
      Escape host args (.outside failure)
  | noPicture {options : CommandLine.Options} {bytes : List UInt8} {e : Error}
      (h : Playable host args options bytes) (hpicture : host.pictures options.scale = .error e) :
      Escape host args e

/-- A command line is refused, asks for the usage, names a program that can be shown, or lets an
error escape. -/
theorem prospects (host : Host) (args : List String) :
    (∃ text, Refusal host args text) ∨ (CommandLine.parse false args).result = .ok none ∨
      (∃ options bytes, Playable host args options bytes ∧
        host.pictures options.scale = .ok ()) ∨
      ∃ e, Escape host args e := by
  cases hresult : (CommandLine.parse false args).result with
  | error e => exact .inl ⟨_, .argument hresult⟩
  | ok options? =>
    cases options? with
    | none => exact .inr (.inl rfl)
    | some options =>
      cases hfile : host.file? options.rom with
      | none => exact .inl ⟨_, .missing hresult hfile⟩
      | some file =>
        rcases Nat.lt_or_ge 3584 file.size with hlarge | hsmall
        · exact .inl ⟨_, .tooLarge hresult hfile hlarge⟩
        · have hnamed : Named host args options file := ⟨hresult, hfile, hsmall⟩
          cases hread : file.content with
          | error failure => exact .inr (.inr (.inr ⟨_, .unreadable hnamed hread⟩))
          | ok bytes =>
            rcases Nat.lt_or_ge 3584 bytes.length with hlong | hfits
            · exact .inl ⟨_, .tooLong hnamed hread hlong⟩
            · have hplayable : Playable host args options bytes := ⟨⟨file, hnamed, hread⟩, hfits⟩
              cases hpicture : host.pictures options.scale with
              | error e => exact .inr (.inr (.inr ⟨e, .noPicture hplayable hpicture⟩))
              | ok _ => exact .inr (.inr (.inl ⟨options, bytes, hplayable, hpicture⟩))

/-! ### What a launch makes of it -/

theorem unlines_singleton (line : String) : unlines [line] = line ++ "\n" := by
  simp [unlines]

theorem logged_empty (logsOn : Bool) : logged logsOn #[] = "" := by
  cases logsOn <;> simp [logged, unlines]

theorem reject_of_refusesProgram {e : Error} (h : e.refusesProgram = true) (printed : String)
    (logsOn : Bool) : reject e printed logsOn = quit 1 (printed ++ (e.message ++ "\n")) logsOn := by
  rw [reject, if_pos h, unlines_singleton]

/-- The file is read, and what comes of that decides. -/
theorem ofFile_of_named {options : CommandLine.Options} {file : File}
    (h : Named host args options file) : Cartridge.ofFile host.file? options.rom =
      ⟨(), Cartridge.ofContent file.content options.rom,
        #[Cartridge.loadingLine options.rom]⟩ := by
  have hsmall : ¬ programRoom < file.size := Nat.not_lt.mpr h.small
  simp only [Cartridge.ofFile, h.found, if_neg hsmall]

theorem ofArgs_of_error (noise : Noise) {options : CommandLine.Options} {e : Error}
    {log : Array String} (h : (CommandLine.parse false args).result = .ok (some options))
    (hfile : Cartridge.ofFile host.file? options.rom = ⟨(), .error e, log⟩) :
    ofArgs host noise args = reject e (logged (CommandLine.parse false args).logsOn log)
      (CommandLine.parse false args).logsOn := by
  simp only [ofArgs, h, hfile]

theorem ofArgs_of_refusal (noise : Noise) {text : String} (h : Refusal host args text) :
    ofArgs host noise args = quit 1 text (CommandLine.parse false args).logsOn := by
  cases h with
  | argument h => simp only [ofArgs, h, unlines_singleton]
  | @missing options h hfile =>
    have herror : Cartridge.ofFile host.file? options.rom =
        ⟨(), .error (.notFound options.rom), #[]⟩ := by
      simp only [Cartridge.ofFile, hfile, Outcome.failed]
    rw [ofArgs_of_error noise h herror, reject_of_refusesProgram rfl, logged_empty,
      String.empty_append]
  | @tooLarge options file h hfile hlarge =>
    have herror : Cartridge.ofFile host.file? options.rom =
        ⟨(), .error (.tooLarge file.size 3584), #[]⟩ := by
      have hlarge : programRoom < file.size := hlarge
      simp only [Cartridge.ofFile, hfile, if_pos hlarge, Outcome.failed]
      rfl
    rw [ofArgs_of_error noise h herror, reject_of_refusesProgram rfl, logged_empty,
      String.empty_append]
  | @tooLong options file bytes h hread hlong =>
    have herror : Cartridge.ofFile host.file? options.rom =
        ⟨(), .error (.tooLarge bytes.length 3584), #[Cartridge.loadingLine options.rom]⟩ := by
      have hrefused : ¬ bytes.length ≤ programRoom := Nat.not_le.mpr hlong
      simp only [ofFile_of_named h, hread, Cartridge.ofContent, Cartridge.ofBytes,
        dif_neg hrefused]
      rfl
    rw [ofArgs_of_error noise h.asked herror, reject_of_refusesProgram rfl, announced]

theorem ofArgs_of_usage (host : Host) (noise : Noise)
    (h : (CommandLine.parse false args).result = .ok none) :
    ofArgs host noise args = quit 0 CommandLine.usage (CommandLine.parse false args).logsOn := by
  simp only [ofArgs, h]

theorem ofArgs_eq_play (noise : Noise) {options : CommandLine.Options} {bytes : List UInt8}
    (h : Playable host args options bytes) : ofArgs host noise args =
      play host.pictures options ⟨bytes, options.rom, h.fits⟩ noise (announced args options)
        (CommandLine.parse false args).logsOn := by
  obtain ⟨file, hnamed, hread⟩ := h.read
  simp only [ofArgs, hnamed.asked, ofFile_of_named hnamed, hread, Cartridge.ofContent,
    Cartridge.ofBytes_ok h.fits, announced]

/-- A session that has been opened with these options, for a program of these bytes, and what it
asked for: one window, of the scale, on a console that runs and is about to start the program. -/
structure Opened (options : CommandLine.Options) (bytes : List UInt8) (session : Session)
    (requests : List Request) : Prop where
  window : requests.filter Request.opens =
    [.openWindow (64 * options.scale) (32 * options.scale) "CHIP-8 Emulator" false]
  scale : session.scale = options.scale
  running : session.console.running = true
  paused : session.console.paused = false
  ticksPerFrame : session.console.ticksPerFrame = options.ticks
  waitForKey : session.console.core.waitForKey = options.waitForKey
  registers : session.console.core.registers = { Registers.zero with pc := 0x200 }
  memory : session.console.core.memory.Holds bytes 0x200

/-- The launch opens such a session. -/
structure Opens (options : CommandLine.Options) (bytes : List UInt8) (launch : Launch) : Prop where
  exit : launch.exit = .ok 0
  opened : ∃ session requests,
    launch.opened? = some (session, requests) ∧ Opened options bytes session requests

section Play

variable {pictures : Int → Except Error Unit} (options : CommandLine.Options)
  (cartridge : Cartridge) (noise : Noise) (printed : String) (logsOn : Bool)

/-- The console on which the window is opened. -/
def started : Console :=
  { { Console.new options.ticks options.waitForKey noise with
      cartridge? := some cartridge }.booted cartridge with running := true }

/-- Putting the program in and starting it cannot fail. -/
theorem insert_start :
    ((Console.new options.ticks options.waitForKey noise).insert cartridge).andThen
      (fun () c => c.start) =
      ⟨started options cartridge noise, .ok (),
        #[Memory.loadedLine cartridge.bytes programStart]⟩ := by
  have hinsert : (Console.new options.ticks options.waitForKey noise).insert cartridge = _ :=
    (Console.insert_eq _ _).trans (if_neg Bool.false_ne_true)
  have hloaded : ({ Console.new options.ticks options.waitForKey noise with
      cartridge? := some cartridge }.booted cartridge).cartridge? = some cartridge := rfl
  rw [hinsert, Outcome.andThen]
  simp [Console.start, hloaded, Outcome.done, started]

variable {options cartridge}

/-- There is a picture of the scale, and so there is a window. -/
theorem play_of_picture {bytes : List UInt8} (hbytes : cartridge.bytes = bytes)
    (hpicture : pictures options.scale = .ok ()) :
    Opens options bytes (play pictures options cartridge noise printed logsOn) := by
  subst hbytes
  have hroom : ((0x200 : Nat) : Int) + cartridge.bytes.length ≤ 4096 := by
    have hfits : cartridge.bytes.length ≤ 3584 := cartridge.fits
    omega
  have hmemory := Memory.holds_splice (by decide) hroom
  simp only [play, insert_start, bind, Except.bind, Session.ofScale, hpicture, Except.map]
  exact ⟨rfl, _, _, rfl, rfl, rfl, rfl, rfl, rfl, rfl, rfl, hmemory⟩

/-- There is none, and that is an error. -/
theorem play_of_noPicture {e : Error} (hpicture : pictures options.scale = .error e) :
    play pictures options cartridge noise printed logsOn =
      escape e (printed ++ logged logsOn #[Memory.loadedLine cartridge.bytes programStart])
        logsOn := by
  simp only [play, insert_start, bind, Except.bind, Session.ofScale, hpicture, Except.map]

end Play

theorem ofArgs_of_playable (noise : Noise) {options : CommandLine.Options} {bytes : List UInt8}
    (h : Playable host args options bytes) (hpicture : host.pictures options.scale = .ok ()) :
    Opens options bytes (ofArgs host noise args) := by
  rw [ofArgs_eq_play noise h]
  exact play_of_picture noise _ _ rfl hpicture

theorem ofArgs_of_escape (noise : Noise) {e : Error} (h : Escape host args e) :
    (ofArgs host noise args).exit = .error e ∧ (ofArgs host noise args).opened? = none := by
  cases h with
  | @unreadable options file failure h hread =>
    have herror : Cartridge.ofFile host.file? options.rom =
        ⟨(), .error (.outside failure), #[Cartridge.loadingLine options.rom]⟩ := by
      simp only [ofFile_of_named h, hread, Cartridge.ofContent]
    rw [ofArgs_of_error noise h.asked herror]
    exact ⟨rfl, rfl⟩
  | noPicture h hpicture =>
    rw [ofArgs_eq_play noise h, play_of_noPicture noise _ _ hpicture]
    exact ⟨rfl, rfl⟩

/-! ### Pictures -/

/-- What is known of pictures.  Rows and columns are counted in 64 bits with a sign, and no picture
has as many as two to the 63 bytes, four for each pixel of the window. -/
structure Picturing (pictures : Int → Except Error Unit) : Prop where
  counted : ∀ scale, fits64 scale = false → pictures scale = .error .tooWide
  sized : ∀ scale, pictures scale = .ok () →
    4 * (64 * scale) * (32 * scale) < 0x8000000000000000

theorem addressable_picturing : Picturing Picture.addressable where
  counted := by
    intro scale h
    simp [Picture.addressable, h]
  sized := by
    intro scale h
    unfold Picture.addressable at h
    split at h
    · cases h
    · split at h
      · cases h
      · split at h
        · cases h
        · next hbytes => exact Int.lt_of_not_ge hbytes

/-- From two to the 25th on no scale has a picture. -/
theorem Escape.of_large {options : CommandLine.Options} {bytes : List UInt8}
    (hpictures : Picturing host.pictures) (h : Playable host args options bytes)
    (hscale : 0x2000000 ≤ options.scale) : ∃ e, Escape host args e := by
  cases hpicture : host.pictures options.scale with
  | error e => exact ⟨e, .noPicture h hpicture⟩
  | ok _ =>
    have hbytes := hpictures.sized _ hpicture
    have hsquare : (0x2000000 : Int) * 0x2000000 ≤ options.scale * options.scale :=
      Int.mul_le_mul (by omega) (by omega) (by decide) (by omega)
    linarith

/-- A scale of more than 63 bits is too wide. -/
theorem Escape.of_tooWide {options : CommandLine.Options} {bytes : List UInt8}
    (hpictures : Picturing host.pictures) (h : Playable host args options bytes)
    (hscale : 0x8000000000000000 ≤ options.scale) : Escape host args .tooWide := by
  have hwide : fits64 options.scale = false := by
    simp only [fits64, Bool.and_eq_false_iff, decide_eq_false_iff_not]
    omega
  exact .noPicture h (hpictures.counted _ hwide)

/-! ### The ways in which a launch ends -/

/-- The launch ends as foreseen. -/
structure Proper (host : Host) (args : List String) (launch : Launch) : Prop where
  code : launch.exit = .ok 0 ∨ launch.exit = .ok 1
  refused : ∀ text, launch.exit = .ok 1 ∧ launch.printed = text ∧ launch.opened? = none ↔
    Refusal host args text
  usage : launch.exit = .ok 0 ∧ launch.printed = CommandLine.usage ∧ launch.opened? = none ↔
    (CommandLine.parse false args).result = .ok none
  opens : (∀ text, ¬ Refusal host args text) →
    (CommandLine.parse false args).result ≠ .ok none →
    ∃ options bytes, Playable host args options bytes ∧ Opens options bytes launch

theorem Proper.exit_ne_error {launch : Launch} (h : Proper host args launch) (e : Error) :
    launch.exit ≠ .error e := by
  intro herror
  rcases h.code with hzero | hone
  · cases herror.symm.trans hzero
  · cases herror.symm.trans hone

variable (noise : Noise)

/-- Code one without a window is a refusal, and the other way round. -/
theorem refused_iff (text : String) :
    (ofArgs host noise args).exit = .ok 1 ∧ (ofArgs host noise args).printed = text ∧
        (ofArgs host noise args).opened? = none ↔
      Refusal host args text := by
  constructor
  · -- The usage and a window have another code, and an error has none.
    rintro ⟨hexit, hprinted, -⟩
    rcases prospects host args with ⟨text', h⟩ | h | ⟨options, bytes, h, hpicture⟩ | ⟨e, h⟩
    · rw [ofArgs_of_refusal noise h] at hprinted
      obtain rfl : text' = text := hprinted
      exact h
    · rw [ofArgs_of_usage host noise h] at hexit
      cases hexit
    · cases hexit.symm.trans (ofArgs_of_playable noise h hpicture).exit
    · cases hexit.symm.trans (ofArgs_of_escape noise h).1
  · intro h
    rw [ofArgs_of_refusal noise h]
    exact ⟨rfl, rfl, rfl⟩

/-- Code zero without a window is the usage. -/
theorem usage_iff : (ofArgs host noise args).exit = .ok 0 ∧
      (ofArgs host noise args).printed = CommandLine.usage ∧
      (ofArgs host noise args).opened? = none ↔
    (CommandLine.parse false args).result = .ok none := by
  constructor
  · -- A refusal has another code, an error has none, and otherwise there is a window.
    rintro ⟨hexit, -, hopened⟩
    rcases prospects host args with ⟨text, h⟩ | h | ⟨options, bytes, h, hpicture⟩ | ⟨e, h⟩
    · rw [ofArgs_of_refusal noise h] at hexit
      cases hexit
    · exact h
    · obtain ⟨session, requests, hsome, -⟩ := (ofArgs_of_playable noise h hpicture).opened
      cases hopened.symm.trans hsome
    · cases hexit.symm.trans (ofArgs_of_escape noise h).1
  · intro h
    rw [ofArgs_of_usage host noise h]
    exact ⟨rfl, rfl, rfl⟩

/-- The errors that end a launch are those that escape. -/
theorem escape_iff (e : Error) :
    (ofArgs host noise args).exit = .error e ∧ (ofArgs host noise args).opened? = none ↔
      Escape host args e := by
  constructor
  · rintro ⟨hexit, -⟩
    rcases prospects host args with ⟨text, h⟩ | h | ⟨options, bytes, h, hpicture⟩ | ⟨e', h⟩
    · rw [ofArgs_of_refusal noise h] at hexit
      cases hexit
    · rw [ofArgs_of_usage host noise h] at hexit
      cases hexit
    · cases hexit.symm.trans (ofArgs_of_playable noise h hpicture).exit
    · cases hexit.symm.trans (ofArgs_of_escape noise h).1
      exact h
  · exact ofArgs_of_escape noise

/-- Without an error that escapes, the launch is one of the three that are foreseen. -/
theorem proper_of_no_escape (h : ∀ e, ¬ Escape host args e) :
    Proper host args (ofArgs host noise args) where
  code := by
    rcases prospects host args with ⟨text, hrefusal⟩ | husage | ⟨_, _, hplay, hpicture⟩ | ⟨e, he⟩
    · exact .inr ((refused_iff noise text).mpr hrefusal).1
    · exact .inl ((usage_iff noise).mpr husage).1
    · exact .inl (ofArgs_of_playable noise hplay hpicture).exit
    · exact absurd he (h e)
  refused := refused_iff noise
  usage := usage_iff noise
  opens := by
    intro hrefusal husage
    rcases prospects host args with ⟨text, h'⟩ | h' | ⟨options, bytes, hplay, hpicture⟩ | ⟨e, he⟩
    · exact absurd h' (hrefusal text)
    · exact absurd h' husage
    · exact ⟨options, bytes, hplay, ofArgs_of_playable noise hplay hpicture⟩
    · exact absurd he (h e)

/-- **From the command line to the window.**  A launch is refused with code one and the reason,
shows the usage with code zero, or opens one window on a console that runs the program with the
settings of the command line, each exactly if the command line and the file are so, unless an error
escapes: that of a file that is there and cannot be read, or that of a picture that cannot be made.
Then there is neither a code nor a session.  From two to the 25th on there is no picture of a scale,
and a scale of more than 63 bits is too wide. -/
theorem proper_iff_no_escape (host : Host) (noise : Noise) (args : List String) :
    let launch := ofArgs host noise args
    (Proper host args launch ↔ ∀ e, ¬ Escape host args e) ∧
    (∀ e, launch.exit = .error e ∧ launch.opened? = none ↔ Escape host args e) ∧
    (Picturing host.pictures → ∀ options bytes, Playable host args options bytes →
      (0x2000000 ≤ options.scale → ∃ e, Escape host args e) ∧
      (0x8000000000000000 ≤ options.scale → Escape host args .tooWide)) := by
  intro launch
  refine ⟨⟨?_, proper_of_no_escape noise⟩, escape_iff noise, ?_⟩
  · intro hproper e h
    exact hproper.exit_ne_error e (ofArgs_of_escape noise h).1
  · intro hpictures options bytes h
    exact ⟨Escape.of_large hpictures h, Escape.of_tooWide hpictures h⟩

/-- A program of one instruction, and a file that is not to be read. -/
def desk : Host where
  file? path :=
    if path = "rom" then some (.ofBytes [0x00, 0xE0])
    else if path = "locked" then some ⟨2, .error ⟨"PermissionError", "Permission denied"⟩⟩
    else none
  pictures := Picture.addressable

/-- The command line for the program at a scale. -/
def scaledArgs (scale : String) : List String := ["--scale", scale, "rom"]

theorem named_scaledArgs {text : String} {scale : Nat}
    (hvalue : Text.Numeral.ofString text = .value scale) (hpos : 0 < scale) :
    Named desk (scaledArgs text) ⟨"rom", false, 10, scale⟩ (.ofBytes [0x00, 0xE0]) where
  asked := by
    have hoption : CommandLine.Arg.ofString "--scale" = .numbered .scale := by decide +kernel
    have hname : CommandLine.Arg.ofString "rom" = .name "rom" := by decide +kernel
    have hnumber : CommandLine.readNumber .scale text = .ok scale := by
      rw [CommandLine.readNumber, hvalue]
      exact if_neg (Nat.not_lt.mpr hpos)
    simp only [CommandLine.parse, scaledArgs, CommandLine.scan, hoption, hnumber, hname]
    rfl
  found := rfl
  small := by decide

theorem playable_scaledArgs {text : String} {scale : Nat}
    (hvalue : Text.Numeral.ofString text = .value scale) (hpos : 0 < scale) :
    Playable desk (scaledArgs text) ⟨"rom", false, 10, scale⟩ [0x00, 0xE0] :=
  ⟨⟨_, named_scaledArgs hvalue hpos, rfl⟩, by decide⟩

/-- Four window pixels for a pixel are a window; a file that is not to be read, a picture of too
many bytes and a scale that is too wide are errors. -/
theorem proper_iff_no_escape_desk :
    Proper desk (scaledArgs "4") (ofArgs desk (.cycle #[]) (scaledArgs "4")) ∧
    (ofArgs desk (.cycle #[]) ["locked"]).exit =
      .error (.outside ⟨"PermissionError", "Permission denied"⟩) ∧
    (∃ e, (ofArgs desk (.cycle #[]) (scaledArgs "33554432")).exit = .error e ∧
      (ofArgs desk (.cycle #[]) (scaledArgs "33554432")).opened? = none) ∧
    (ofArgs desk (.cycle #[]) (scaledArgs "9223372036854775808")).exit = .error .tooWide ∧
    (ofArgs desk (.cycle #[]) (scaledArgs "9223372036854775808")).opened? = none := by
  have hnone : ∀ e, ¬ Escape desk (scaledArgs "4") e := by
    have hfour := named_scaledArgs
      (show Text.Numeral.ofString "4" = .value 4 by decide +kernel) (by decide)
    intro e h
    cases h with
    | unreadable h hread =>
      obtain ⟨-, rfl⟩ := h.unique hfour
      cases hread
    | noPicture h hpicture =>
      obtain ⟨file, hnamed, -⟩ := h.read
      obtain ⟨rfl, -⟩ := hnamed.unique hfour
      cases hpicture
  have hlocked : Escape desk ["locked"] (.outside ⟨"PermissionError", "Permission denied"⟩) := by
    have hname : CommandLine.Arg.ofString "locked" = .name "locked" := by decide +kernel
    have hasked : (CommandLine.parse false ["locked"]).result =
        .ok (some ⟨"locked", false, 10, 10⟩) := by
      simp only [CommandLine.parse, CommandLine.scan, hname]
      rfl
    exact .unreadable ⟨hasked, rfl, by decide⟩ rfl
  have hlarge := playable_scaledArgs
    (show Text.Numeral.ofString "33554432" = .value 0x2000000 by decide +kernel) (by decide)
  have hwide := playable_scaledArgs
    (show Text.Numeral.ofString "9223372036854775808" = .value 0x8000000000000000 by
      decide +kernel) (by decide)
  obtain ⟨hiff, -⟩ := proper_iff_no_escape desk (.cycle #[]) (scaledArgs "4")
  obtain ⟨-, hends, -⟩ := proper_iff_no_escape desk (.cycle #[]) ["locked"]
  obtain ⟨-, hends', hpictures'⟩ :=
    proper_iff_no_escape desk (.cycle #[]) (scaledArgs "33554432")
  obtain ⟨-, hends'', hpictures''⟩ :=
    proper_iff_no_escape desk (.cycle #[]) (scaledArgs "9223372036854775808")
  obtain ⟨e, he⟩ := (hpictures' addressable_picturing _ _ hlarge).1 (Nat.le_refl _)
  exact ⟨hiff.mpr hnone, ((hends _).mpr hlocked).1, ⟨e, (hends' e).mpr he⟩,
    (hends'' _).mpr ((hpictures'' addressable_picturing _ _ hwide).2 (Nat.le_refl _))⟩

/-- A launch does not always end as foreseen. -/
theorem not_proper_wideArgs :
    ¬ Proper desk ["--scale", "9223372036854775808", "rom"]
      (ofArgs desk (.cycle #[]) ["--scale", "9223372036854775808", "rom"]) := by
  intro hproper
  have hplay := playable_scaledArgs
    (show Text.Numeral.ofString "9223372036854775808" = .value 0x8000000000000000 by
      decide +kernel) (by decide)
  have hescape := Escape.of_tooWide addressable_picturing hplay (Nat.le_refl _)
  exact hproper.exit_ne_error _ (ofArgs_of_escape _ hescape).1

end Launch
end Chip8
