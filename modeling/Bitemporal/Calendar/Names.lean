/-!
# Names of weekdays and months

English names. An abbreviation is the first three letters of a name.
-/

namespace Bitemporal.Calendar

def weekdayNames : List (List Char) :=
  ["Monday", "Tuesday", "Wednesday", "Thursday", "Friday", "Saturday", "Sunday"].map String.toList

def monthNames : List (List Char) :=
  ["January", "February", "March", "April", "May", "June", "July", "August", "September",
    "October", "November", "December"].map String.toList

def abbreviated (name : List Char) : List Char := name.take 3

def halfDayNames : List (List Char) := ["AM", "PM"].map String.toList

end Bitemporal.Calendar
