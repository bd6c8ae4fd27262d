import OpenBroker.Text.Class

/-!
# Properties of characters in names of hosts

Most letters, digits and marks of most scripts may stand in the name of a host, in lower
case.  A few more may stand between certain others only.  Scripts that are written from
right to left have rules of their own, and so have the joiners, which are not seen but
change the shapes around them.  The tables here say which characters these are.
-/
namespace OpenBroker
namespace Domain

/-- The characters that may stand in a label, some of them between certain others
only.  In ASCII these are the hyphen, the digits and the small letters. -/
def permitted : CodeSet := CodeSet.extended [0x2D, 0x2E, 0x30, 0x3A, 0x61, 0x7B, 0xB7]
  "X1duXeXXXXXXXXXXXXXXXXXXXXXXXXXXXXXXXXXXXXXXXXXXXXXXXXXXZXXYXXXXXXZXXXXXXXYXXXXXXXXX
    XXXXXXXXXXXXXXXXXXXXXXXXXXXXXXXXXXXXYXXXXXXXYXXXYXZYaXYXZZYXYXXXXXYXXYXXYXZXXXYZXdgXXXXXXXXXXX
    XXXYXXXXXXXXXXXXXXXXXYaXZXXXXXXXXXXXXXXXXXXXXXXXXXXXXXXXXXXXXXXXXXXXXXXXXXXXXXXXXXXdYXYYXXaXXX
    XXXXX3XffaiwXXXn2WYXZfX1WXXXXXXXXZZoXx1ZeXXXXXXXXXXXXXXXXXXXXXXXXXZXaXYY1p1mXXXXXXXXXXXXXXXXXX
    XXXXXXXXXXXXXXXXXbZXXXXXXXXXXXXXXXXXXXXXXXXXXXXXXXXXXXXXXXXXXXXXXXXXXXXXYXXXXXXXXXXXXYXXXXXXXX
    XXXXXXXXXXXXXXXXXXXXXXXXXXXXXXXXXXXXXXXXXXXXXXXXXXXXXXXXXXXXXXXXXXXXXXXXXXXXXXXXXXXXXXXX1fXc1d
    XXe1jXXXYXYXXexacxhb1WX1fada2xXeYgXsm1xY3bk1sdXY1koyahbuXcf2gX3reaYgXpXeYYYsXdXXZaYfYYYaeXeaYi
    gXXXYZXcaYYsXdXXYXYYYXXbaYYZZXgXfmhZXfXZXsXdXYXbYgXZXZYXlaYgfdXZXeYYYsXdXYXbYfYYYZdZdbYgXXmYXc
    ZZXaZYXXXYZYZZZiabZZXaYXcXkgmjXZXtXmYfXZXadYXZYXYaYgmaXeXZXtXgXbYfXZXadYcYXaYgXYjjXZX1pXZXbbad
    bYggcXZXoZuXfXXYdZXacXXXecgYYj1oXdblXg1dYXXXbXuXXXiXgYbXXXcYgaY1WXgXiYcghXXXXXabXaXaXaXaXaXiXZ
    aYXXbdXZXjXaXaXaXaXaXiXZfX1v2gc2k1o1hYZ8W2fXaYdXXXaY1fXaY1XXaYdXXXaYlX1vXaY2ZYZ1Wmm2shJiYnXwb2
    hcedsfshqijXZXYi1qY.ZXaYYg1cgc2vd1hb2cg,Xiaig1eYbh1iawcg1cya1,XzYhcgjXekXm1n2jZgnfi3qi1uegZ1n2
    oZX1db1iZXhXoXyjX1Y1b2WXXXXXXXXXXXXXXXXXXXXXXXXXXXXXXXXXXXXXXXXXXXXXXXXXXXXXXXXXXXXXXXXXXXXXXX
    XXXXXXXXXXXXXXXXXXXXXXXXXXXXXXXXXXXXXXXXXXXXXXXXXXXXXXXXXXXXXXXXXXXXXXXXXXXXXXbYYXXXXXXXXXXXXX
    XXXXXXXXXXXXXXXXXXXXXXXXXXXXXXXXXXXXXXXXXXXXXXXXXXXXXXXXXXXXXXXXXXXXXXXXXXXXXXXXXXXXfecgeeeecg
    eeeeXXXXXXXXXXXXX1pYaXlXfZZYeZXakXrYAWX1rX2Lh1mXXZYXXXXXXaXXYXcbXXXXXXXXXXXXXXXXXXXXXXXXXXXXXX
    XXXXXXXXXXXXXXXXXXXXXXXXXXXXXXXXXXXXXXXXXXXXXXXXXXXXXXXXXXXXXXXXXXXXYdXXaXXi1cXXbXY1utufdXdXdX
    dXdXdXdXdX1W1lXErZ1YakXa2sYYYYY2.c1h3m1W1mmGW6EW2WLKj2Z1kY8jZyrXXXXXXXXXXXXXXXXXXXXXXXXXXXXXXX
    XXXXXXXXXXXXXZagXXXXXXXXXXXXXXXXXXXXXXXXXXXXXXY2egY1bfZXXXXXXXXXXXXZXXXXXXXXXXXXXXXXXXXXXXXXXX
    XXXXXXXXXXXXXXXXXXXXXXXXXXXXXXXXXXXXXeXXXXYXXXXXXXXYZXXYXXXZXXXXXXXXXXXXXXXXXXXXbXbXXXXXXXXXXX
    XXXXaXXXcXXXXXXXXXyYY1kaXp1qi2cggcuZXX1nY1a1i2Xkhc,X1tfkYgctZ2fuZYmYbgcYcYcfdXdX1hbf2t1hXYYgcA
    Ta8JgYXXXYgXXXXYYZ7qXOXm2ZXCiiXwXpXYXlYk1Y3x8YX4YzZ1nlX,1WjqXec1hb.Y1aae2u3sYg1k1aa1ee1q1phXlX
    dXY2Z9tfsgeuX3,cYXX1iXYZXYtgtf,2XpXYgsgw2c1ucY2WaXYbeXZXzYZaX1WzZz1ZeX.v1sgsgpjo3k2f3t1pj1eegA
    c1gXYZY2kzgXe1X,s1grxtf2d,mf1ydXjvdgc1rXgaae1aYXf2baaXjXX1ZoX1bcX2XdXXXaXlXgd1xbgcaXeYYYsXdXYX
    bXgYYYZYXcXbdYdZb4h2hbgaa.2cXXeg5c1sYftc1Y2XZXhg1c1vdg1sxYlagcd5v1x4b1greYXYeXYX.XYYfig2ceY1kY
    eXYx1,eXe2gZXo2f8dfX1jXflgu.YsXk2fdXYX1iZXXYXfegccXYX1bXYXcdg9st5vX2lSw7c6a2Ii3Xl11l3UnId8DvHv
    d,Xgc2lXgc.Ybh1tfaigfrbpMm1W4W2ha1vdn2WYXYhYk5Vue16s1gf8NdaXdXYX9Z1jZnaeCi28a3hbjZfdgZY4JX1kYt
    2Lv1ta1oeXkXsbXl12m,7XdXnYdXYXb6r1jZkYgaXAX,n1w17cdXaXYXlX6bhd2h1gag5Lc19NW1W41vd6.Y5KYk79n50,
    4Qh"

/-- The marks, which no label begins with. -/
def marks : CodeSet := CodeSet.ofPacked
  "OW3m8pd8d1jXXXYXYXX2eh1mrmX3bdYcYYXa1ZX.x2xh1wffXuaXfXZXb1hZ1ye1guX1X1sZXoXdgYzZ1uXXdYYYZfXgYw
    XYZ1uXXbaYYZZX.YZXhZ1uXXeXZXZqYscXZ1uXXdYYYZdZgY.X1xbZZXafX1eb1tXXdXZXadYhYzZ1uXXdXZXadYhYya1t
    YXdXZXafXgYzZ2cXacXXXeoY1zXYdie3YXYfhc2gYxXXXXXaY1nqXYbhX1afX3aqtaaZXZYdZajiXXgaL,ZToayZzY.Y2W
    1WfX1jZXX3rY1YX3siai6xb1vgXzYX1m,1nb1ln1cfiZ.j1uk1mq4uZXraXcXYZ6c2WMm1X2V.Z4jX3W1WHgc3fYTEqaXg
    1WY2mY8mXZXaXtbaX2pY1oowojX1cevj1ia1lk1aX2ZkiXeY1jZ1oXXZYYbYXX1fbbY7ieXYJPmXNXmmmUjX7YX4rb1KcZ
    XYba1eZaX5bYHzaCZY4vh1na3wZ1rl1fXYYga1jhdX1zZ1akmY1iXiZ1mkeaXY2yicX5Wira1tYXdYYYZfXgYYdZb6WotX
    2nq7hdYfxY2on3gj3bl8Wl7rcXYYaXXXY4jdYdZXyg1edXaeXfh1kmCreXe2osXk3wcZXXYXdXX2YbXYXbAxaIVvb1xd10
    uXX1tda2nXhYJ5hY4JX1kYtG.bZceeYd.a4qZ1Tx1ta1oeXkXsbXl1AmdXnYdXYXb8bdBtX1za1FWd3jdO5Tr7m"

/-- The marks that suppress a vowel. -/
def viramas : CodeSet := CodeSet.ofPacked
  "2AjX3,X3,X3,X3,X3,X3,X3,X3jYmX3yX3lX3,X6fX5qY1MvY.X4zXKjX7ZX3bY2cY4ChXUKcX1bX4tX4kX3iX9rX7sXNI
    nX1GcX1fXkX1vX3vY4hX3qX5qX3YX7qX3,X7yX3,X3sX3qX8jX8ZY5XX2pXoX2nXDbX8aY2nX"

/-! ## Scripts -/

def greek : CodeSet := CodeSet.ofPacked
  "RmaXZYaXXaXXXXZXXXqX1,km69cb1obab2qXAWsYcY1cYcYeXXXXXXX,Y1rXlXkYcXpYZXf9dX12H.XLEw2lnX1K2,2c"

def hebrew : CodeSet := CodeSet.ofPacked
  "1Cn1texac1T9ewXbXXXYXYXg"

/-- The characters of the scripts of Japanese. -/
def japanese : CodeSet := CodeSet.ofPacked
  "BKWwX2vi6s1lXXXvfkab2scZX2wYZ7mm6m1lX2u5e6EW2WKGWM8WBkY3g14igX1jS2aYidFVvaXdXYX9ZlXzZYXkaG4uX3
    F,19NW1W48.Y5KkY79nlJk2DYG.1FY4Qhb89g"

/-! ## Joining -/

/-- The characters that joining passes over. -/
def transparent : CodeSet := CodeSet.ofPacked
  "5jXIo3m8pd8d1jXXXYXYXX2ehXX1krmX3bdYcYYXa1XXXX.x2xh1wffXuaXfXZXb1hZ1xf1guX1W1tXXXaeaXZdgYzX1wX
    aaeXqYwXYY1vXaYaYYZZX.YZXhY1vXabXYaXqYscXX1wXYXXaeXdYhY.X1zXiX1oXZX1tXXZbZXadYhYzX1wXYXcXbYqYy
    Y1vYaaeXqYzX2eXdZXX2wXYdie3YXYfhd2fYxXXXXX1tkXbXYbhX1afX3caXcXYYYvYaZmajXYYcXlXL,ZToZzY.Y.Y2WY
    XdeXYhfX1jZXX3rY1YX3sZaYfXcZ6xYYX1wXXdXXXXYecgYX1m1kYiqa1mXXbXXbX1efiY1WaYYXZ1uXXYZXXZ1weYY4uZ
    XjXdaXcXZY6c2WGhXYYwb1nbbc3W1X2V.Z4jX3W1WHga3hYTEqaXg1WY2mY8mXZXaXvYbX4tYwojX1cevh1kZ1mXYaYY1d
    X2ZcYYYYiXeX1lX1pXXZYYbYXX1gYeX7kXYXaXJPmXNXmmm6lX7vZGXX7YX4rb1KcZXYba1eZaX5bYHza2Xb9zY2jc2ch1
    na3xX1sl1fXYYgZ1naYYdX1zZ1abXe1.XiY1qfgaYX2,ZYXXYcXYX4zXZerY1vYZX1bdZb2ccjXXXXXkY2reYZXXtX2qcX
    XaYXY7kacYXYxY2reYXXY3gXXXYcXX3bXXXYaXb8ZfXY8WYXXaX4maYYaX1Wg1ecYaeXfcYZ1kjXY6cXXZXX6fdXcXX2os
    YdXYXY3wcZXXYXdXX2eYZXXXAxYhY1qbbXXXtX56rnclB6eiZZ2EWb1xd10uX1,a2nXJ5uYXa4Iy1kYtHWZfmYd.a4qZ1T
    x1ta1oeXkXsbXl1AmdXnYdXYXb3aX5WdBtX1zaFya7.Y7pXYXdYbXEwd3jeO5LrX.3W4W7m"

/-- The characters that join what follows them. -/
def joiningForward : CodeSet := CodeSet.ofPacked
  "1HWXbXXXXbajXdXY1ZYemo1cXYfXXXXY1eZYXoZbaXfXXXXXY,hZlYaXXYZYc2g1X2sbYXXgXXgXXaYXzXYbXXmgbYYcXl
    3P.Xu2vk1YXX13Sr1pOIjbeXbgXZga4nXXXZZXYXXYXyYAn1YXXC,YXY3eZXniZyaYi1kXXYaXYYXYXXYXbY1M9q2a"

/-- The characters that join what stands before them. -/
def joiningBackward : CodeSet := CodeSet.ofPacked
  "1HWXX.Xg1ZYXZX2,XXuYgZYXmXX.z1p2g1X2rvdXXaXabpZXYdmjXx3P.Xu2vk1YXX13Sr1oOIkcXXXYZfXgYXcb4motcA
    o1ZC.ZXY3eriaxo1kXXbXeXaaY1M9r2a"

/-! ## Directions -/

/-- **Direction** of a character. -/
inductive Direction
  | left
  | right
  | arabic
  | arabicNumber
  | number
  /-- Signs of numbers. -/
  | sign
  | neutral
  | boundary
  /-- Marks have the direction of what they stand on. -/
  | mark
  deriving DecidableEq, Repr

/-- The letters of the scripts that run to the left, the Arabic ones apart. -/
def rightLetters : CodeSet := CodeSet.ofPacked
  "1EmxacEh1hfYgsaXfXZXtv1VTdcYXX1iXYZXYtgtf,2XpXYgsgw2c1ucY2WXlaXZXz1gzZz1ZeXyx1sgsgpjo3k2f3t1pC
    j1gcY2kzgX2eo1krxt1M0f6b2z1YdXag"

/-- The letters of the Arabic scripts. -/
def arabicLetters : CodeSet := CodeSet.ofPacked
  "1HW1WXg1ZYXaa2xXXlYdYgcmXX.z2vhX5khbuXcn1g1TDfX3Ki1aGis"

/-- The Arabic digits. -/
def arabicDigits : CodeSet := CodeSet.ofPacked
  "1JWg21Mcg"

/-- The digits that run to the right in all scripts. -/
def digits : CodeSet := CodeSet.ofPacked
  "1mg1Lsg"

/-- The characters without a direction. -/
def neutrals : CodeSet := CodeSet.ofPacked
  "5tXGXYhgyX4eXALvXMhXTCZX4tf3eX"

/-- The marks on others. -/
def directionlessMarks : CodeSet := CodeSet.ofPacked
  "OW2WYXZfX1W8pb8f1jXXXYXYXX2eh1mrmX3bdYcYYXa1ZX.x2xh1wffXuaXfXZXb1hZ1ye1guX1W1tXXXaeaXZdgYzX1wX
    aaeXqYwXYY1vXaYaYYZZX.YZXhY1vXabXYaXqYscXX1wXYXXaeXdYhY.X1zXiX1oXZX1tXXZbZXadYhYzX1wXlYqYyY1vY
    aaeXqYzX2eXdZXX2wXYdie3YXYfhc2gYxXXXXX1tYXXbbXXXZXYbcXaXaXaXaXaXiXZfX3caXcXYYYvYaZmajXYYcXlXL,
    ZToZzY.Y.Y2ZdeXYhfX5dY1YX3sZaYfXcZ6xYYX1wXXdXXXXYecgYX1mkXm1na1mXXbXXbX1efiY1WaYYXZ1uXXYZXXZ1w
    eYY4uZXjXdaXcXZY6c2W3NlZ4jX3W1WHga3hYTEqXag1WY2mY8mXZXaXvYbX4tYwojX1cevh1kZ1mXYaYY1dX2ZcYYYYiX
    eX1lX1pXXZYYbYXX1gYeX7kXYXaXJPmXOXmUjX7YX4rb1KcZXYba1eZaX5bYHzaCZY4vh1na3xX1sl1fXYYgZ1naYYdX1z
    Z1abXe1.XiY1qfgaYX2,ZYXXYcX5WXZerY1vYZX1bdZb6ZeYZXXtX2qcXXaYXY7kacYXYxY2reYXXY3gXXXYcXX3bZYaXb
    8ZfXY8WYXXaX4maYYaX1WcYY1ecYaeXfcYZ1kjXYCsdXc2qsYdXYXY3wcZXXYXdXX2eYZXXXAxYIVxb1xd10uX1,a2nXJ5
    uY4JX1kYt2Lv1ta1oeXkXsbXl1AmdXnYdXYXb8bdBtX1za1FWd3jd"

/-- The direction of a permitted character. -/
def direction (c : CodePoint) : Direction :=
  if c = '-' then .sign
  else if c.val = 0x200C || c.val = 0x200D then .boundary
  else if rightLetters.has c then .right
  else if arabicLetters.has c then .arabic
  else if arabicDigits.has c then .arabicNumber
  else if digits.has c then .number
  else if neutrals.has c then .neutral
  else if directionlessMarks.has c then .mark
  else .left

end Domain
end OpenBroker
