/-!
# Signals

The names of the signals that have one, by their numbers.
-/
namespace ElfFacts.Signal

def names : List (Nat × String) := [
    (1, "HUP"), (2, "INT"), (3, "QUIT"), (4, "ILL"), (5, "TRAP"), (6, "ABRT"), (7, "BUS"),
    (8, "FPE"), (9, "KILL"), (10, "USR1"), (11, "SEGV"), (12, "USR2"), (13, "PIPE"), (14, "ALRM"),
    (15, "TERM"), (16, "STKFLT"), (17, "CHLD"), (18, "CONT"), (19, "STOP"), (20, "TSTP"),
    (21, "TTIN"), (22, "TTOU"), (23, "URG"), (24, "XCPU"), (25, "XFSZ"), (26, "VTALRM"),
    (27, "PROF"), (28, "WINCH"), (29, "IO"), (30, "PWR"), (31, "SYS")]

def name? (n : Nat) : Option String := (names.lookup n).map ("SIG" ++ ·)

def number? (name : String) : Option Nat := (names.find? (·.2 = name)).map (·.1)

/-- Signals that a program does not notice unless it asks for them. -/
def isQuiet (n : Nat) : Bool := [0, 17, 18, 23, 28].contains n

end ElfFacts.Signal
