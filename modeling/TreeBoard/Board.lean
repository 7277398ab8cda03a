/-!
# The board

The board is a flat tree with twelve two-colour bulbs in six rows. Each bulb holds a red and a green
LED with neighbouring numbers, in an order that depends on how the bulb was soldered:

```text
           *R
           RG
         RG  RG
       RG  GR  GR
     GR  RG  GR  RG
           RG
```

Its pattern memory has 256 slots, which it plays one after another.
-/

namespace TreeBoard

/-- The brightness of one LED, as the byte that holds it. -/
abbrev Level := UInt8

namespace Board

/-- Number of LEDs. -/
abbrev ledCount : Nat := 24

/-- Number of slots of the pattern memory. -/
abbrev slotCount : Nat := 256

/-- The highest level that an LED accepts. -/
abbrev fullLevel : Level := 7

/-- The level of an LED that is off. -/
abbrev darkLevel : Level := 0

/-- Bulbs in each row of the tree, from the top down. -/
def rowWidths : List Nat := [1, 1, 2, 3, 4, 1]

/-- The red LEDs of each row, from the top down. -/
def redRows : List (List Nat) := [[0], [2], [4, 6], [8, 11, 13], [15, 16, 19, 20], [22]]

/-- The green LEDs of each row, from the top down. The star on top is red only, so its row takes
LED 0 here as well. -/
def greenRows : List (List Nat) := [[0], [3], [5, 7], [9, 10, 12], [14, 17, 18, 21], [23]]

end Board

end TreeBoard
