import ChordSheet.Message

/-!
# Help at the prompt

The lines that the command `help` shows.
-/

set_option autoImplicit false

namespace ChordSheet.Help

open Message

/-- A line on one command: its form, a gap that lines the explanations up, and what it does. -/
def entry (form gap explanation : String) : Message :=
  plain "  " ++ colored .cyan form ++ plain (gap ++ "- " ++ explanation)

/-- All lines of the help. -/
def lines : List Message :=
  [bold "🎸 Chordshift Help",
   bold "==================",
   plain "",
   colored .green "Transposing:",
   entry "transpose <file> [key]" "  " "Write <file> transposed to <key>",
   entry "watch <file> [key]" "      " "Re-transpose <file> whenever it changes",
   entry "unwatch <file>" "          " "Stop watching <file>",
   plain "",
   colored .green "Keys:",
   entry "keys" "                   " "Show all supported keys",
   entry "scale <key>" "            " "Show the chords of one key",
   entry "degree <chord> <key>" "   " "Show the degree of a chord in a key",
   entry "default [key]" "          " "Show or set the default target key",
   plain "",
   colored .green "Chart format:",
   plain "  The first line mentioning \"key\" names the source key, e.g. Key: G",
   plain "  Chords are separated by whitespace: C/G    Am    F    G",
   plain "  Only the seven diatonic chords of the source key can be transposed.",
   plain "",
   plain "  " ++ colored .brightRed "quit" ++ plain " or " ++ colored .brightRed "exit" ++
     plain " to exit"]

end ChordSheet.Help
