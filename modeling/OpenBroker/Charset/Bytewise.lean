import OpenBroker.Charset.Basic

/-!
# Sets with a byte to a character

Most character sets have no more characters than a byte has values.  Such a set is a
table of its 256 characters, some of which may be missing, and bytes are read one by one.
Nearly all of them agree with ASCII in the lower half of the table.
-/
namespace OpenBroker
namespace Charset

/-- **Set with a byte to a character**: its name, the other names that it has, and its
characters as a packed table. -/
structure ByteSet where
  name : String
  others : List String
  table : String

namespace ByteSet

/-- Decodes bytes by the characters of a set. -/
def decodeBy (points : Array (Option CodePoint)) (bytes : List UInt8) : Pieces :=
  bytes.map fun b => (points[b.toNat]?).join

/-- **Decodes** bytes. -/
def decode (s : ByteSet) (bytes : List UInt8) : Pieces :=
  decodeBy (tablePoints s.table).toArray bytes

/-- The sets of ISO 8859 for the scripts of Europe and the Near East, and their kin. -/
def isoSets : List ByteSet :=
  [⟨"iso8859_2", ["csisolatin2", "iso_8859_2", "iso_8859_2_1987", "iso_ir_101", "l2", "latin2"],
    "YX4,6gTgPl9x9q1yBdXWBobk1iCvDYbCt5iTkPp8z8s1yMw10,Aqbk1iMeL,b2n9dXW4Y3z7i3d3,4i4d5W4x5W4xXW4Yc
    3eg7fXW7w7rXW8a1k9f9k9fXW8i8d7k7fXW2a1,5k3d2X2k2f3Y2z3Y2zXW2ac3eg5hXW5y5tXW6c1k7h7m7hXW6kNk"⟩,
  ⟨"iso8859_3", ["csisolatin3", "iso_8859_3", "iso_8859_3_1988", "iso_ir_109", "l3", "latin3"],
    "YX4,8kRc13hXWWW8Y7xXW8o2.4X1k8lWWC.Ct7m7hXY7Y6zXW7q2.4X1k7nWWCWBvXXWWc4kb4ZXdWWcXY4w4rXW4i4dXY
    9Y1X7xXYWWc2mb2bXdWWcXY2y2tXW2k2fXY7a1XNw"⟩,
  ⟨"iso8859_4", ["csisolatin4", "iso_8859_4", "iso_8859_4_1988", "iso_ir_110", "l4", "latin4"],
    "YX4,6g3g1.Bb8g1e9fXWBo4z1Y4gBpDYCzXW5iTkOfAd7i1eOu10,Aq4z1Y4g1x3g3d4t3,Xa6o2b4d5W4x4u4pXW5w1r3
    im1j6bXZ9s9nXX8wc8t2c2XXa4q2b2f3Y2z2w2rXW3y1r3im1j4dXZ7u7pXX6ycM."⟩,
  ⟨"iso8859_5", ["csisolatincyrillic", "cyrillic", "iso_8859_5", "iso_8859_5_1988", "iso_ir_144"],
    "YX4,1MaXg1L,1MaX2WECmEChXg1Rh1RmXW"⟩,
  ⟨"iso8859_6", ["arabic", "asmo_708", "csisolatinarabic", "ecma_114", "iso_8859_6",
      "iso_8859_6_1987", "iso_ir_127"],
    "YX4,WYgWc2Mo2L,Wi2M.WYgWWcXuWakXn"⟩,
  ⟨"iso8859_7", ["csisolatingreek", "ecma_118", "elot_928", "greek", "greek8", "iso_8859_7",
      "iso_8859_7_1987", "iso_ir_126"],
    "YX4,FNoXWFNjG0qeG0pXY1Da1C,XXWWFMoFMhXY1DaXX1C,1DaXX1C,1Da1C,1DaXoWWcX1g"⟩,
  ⟨"iso8859_8", ["csisolatinhebrew", "hebrew", "iso_8859_8", "iso_8859_8_1988", "iso_ir_138"],
    "YX4,WWcXc2.2vXj3.3vXYW,FLqD4lXvWXD2gXW"⟩,
  ⟨"iso8859_9", ["csisolatin5", "iso_8859_9", "iso_8859_9_1989", "iso_ir_148", "l5", "latin5"],
    "YX6k5W4xXg5g2.7,Xl3Y2zXg3i2.6X"⟩,
  ⟨"iso8859_10", ["csisolatin6", "iso_8859_10", "iso_8859_10_1992", "iso_ir_157", "l6", "latin6"],
    "YX4,6g.1Yob.8,9g2t5Yk1mDXBy2X9r5i.1Yob.8X8i2t5Yk1mF9mFAr2X4t3,Xa6o2b4d5W4x4u4pXY7im7pXY9c9X9s9
    nXa2c2XXa4q2b2f3Y2z2w2rXY5km5rXY7e7Z7u7pXZ3s"⟩,
  ⟨"iso8859_11", ["iso_8859_11", "iso_8859_11_2001", "thai"],
    "YX4,6MaX1uWZiXx"⟩,
  ⟨"iso8859_13", ["iso_8859_13", "l7", "latin7"],
    "YX4,FNyFNtXXFNsFNnXW3a2,AyAtXY1o1jXYFMqFMlXX4a3,9.9vXY2o1.2s2zk4bXW5ejj4dBY6dw1gv1a2i1xc7b7q7l
    XX9u3Z1q1Y8zAWc9z2k2s2zk2dXW3gjj2f9a6dw1gv1a2i1xc5d5s5nXX7w3Z1q1Y6,8YcF9u"⟩,
  ⟨"iso8859_14", ["iso_8859_14", "iso_8859_14_1998", "iso_celtic", "iso_ir_199", "l8", "latin8"],
    "YX4,EMcXWEMX6mXWEGWEMdETqETlETq7lEmF4hXWCsEAkXWEF,XWEIWXWEOtEQY2u2r2w2d9e6,XW2fEQZXkAiAdXaEPgE
    PbXa9q9lXl8k8fXaENiENdXa7s7n"⟩,
  ⟨"iso8859_15", ["iso_8859_15", "l9", "latin9"],
    "YX5YG0qG0lBuBpBsBnXfCsCnXXCmChXX9mXW2iBpX1,"⟩,
  ⟨"iso8859_16", ["iso_8859_16", "iso_8859_16_2001", "iso_ir_226", "l10", "latin10"],
    "YX4,6gXW3wFMu8zFBzBpBsBnNWMxC.CvCyXWCtXW5u3k3uFAYFMlXWCm7ZGwLz9mXW2igBvXX4Y3z4c4XXe4a3e7ZXX7w7
    r8g1k9lXY3wGcJtXY2a1,2e2ZXe2c3e5bXX5y5t6i1k7nXY1yGcHv"⟩,
  ⟨"tis_620", ["iso_ir_166", "tis620", "tis_620_0", "tis_620_2529_0", "tis_620_2529_1"],
    "YX4.WW6McX1uWZiXx"⟩]

/-- The sets of Windows. -/
def windowsSets : List ByteSet :=
  [⟨"cp1250", ["1250", "windows_1250"],
    "YX3.G2yWW9bWWgojXWWW1WFDXFDqFD,s1qfWWFAWXWeXWi,XWWWG.FSZFDqFD,s1qfDr12m1aPl9x6Y5zXYBiBdXYCyCtX
    W12sPp8zXZ4y5sAf8cQYP,3.2n9dXW4Y3z7i3d3,4i4d5W4x5W4xXW4Yc3eg7fXW7w7rXW8a1k9f9k9fXW8i8d7k7fXW2a
    1,5k3d2X2k2f3Y2z3Y2zXW2ac3eg5hXW5y5tXW6c1k7h7m7hXW6kNk"⟩,
  ⟨"cp1251", ["1251", "windows_1251"],
    "YX3.1OeXWE1mDSlDSuojXW8u7vE2lE3YE2,cZg4eDSkXWeXWi,XWWWG.ECpDUaDUXcZg1R,1M.5Y5j1Mf1Uw1UrXW1Ls1L
    n1Lu1LpXY1Lq1LlXW1Li5Y3u1TvXX1PsECiECb1Pp1Py5d5Yc4lX1."⟩,
  ⟨"cp1252", ["1252", "windows_1252"],
    "YX3.G2yWW9bF8nF8wojXWELtEMsFDXFDqFElWW2uWXF9uXWeXWi,XWEJnF4kFSZFDqFElWW2ujDnX2."⟩,
  ⟨"cp1253", ["1253", "windows_1253"],
    "YX3.G2yWW9bF8nF8wojXWWW1WWWqWa2ZXWeXWi,XWWWG.WWEnWZFPr1EiXW1EdXbWWcXYFMmFMhXY1Da1C,XX1DaXX1C,1
    Da1C,1DaXoWWcX1g"⟩,
  ⟨"cp1254", ["1254", "windows_1254"],
    "YX3.G2yWW9bF8nF8wojXWELtEMsFDXFDqFElWZFCkXWeXWi,XWEJnF4kFSZFDqFElWX2iDnX1k5W4xXg5g2.7,Xl3Y2zXg
    3i2.6X"⟩,
  ⟨"cp1255", ["1255", "windows_1255"],
    "YX3.G2yWW9bF8nF8wojXWELtEMsWWqWa2ZXWeXWi,XWEJnF4kWWEnWZFPrXYG0mG0hXZ2.2vXj3.3vXZ2FaXeWWcXd2yXZ
    Wc2fXvWXD2gXW"⟩,
  ⟨"cp1256", ["1256", "windows_1256"],
    "YX3.G2yD2zCPwF8nF8wojXWELtEMsCRlCSYFEl2Jg1c1X2mCMqXWeXWi,XWCMtD7qD9ZCQqFElFBqXWCLd31r2Mw2MrXc3
    1i31dXj2Mc2MXXY2MaAcAXXq2L,2MYXYkXY2Md2Mg2Mb2MeXY2MZXZ2L.XW2LvXW2LwXY2Lr2LuXW2Lp2Ls2Ln2Lq2LlXW
    FHcXWCJx"⟩,
  ⟨"cp1257", ["1257", "windows_1257"],
    "YX3.G2yWW9bWWgojXWWW1WWWqWWFPZ12W10,WWFMYXWeXWi,XWWWG.WWEnWWFOt12wWW13tWWcXXWWcXW3a2,AyAtXY1o1
    jXc4a3,9.9vXY2o1.2s2zk4bXW5ejj4dBY6dw1gv1a2i1xc7b7q7lXX9u3Z1q1Y8zAWc9z2k2s2zk2dXW3gjj2f9a6dw1g
    v1a2i1xc5d5s5nXX7w3Z1q1Y6,8YcLu"⟩,
  ⟨"cp1258", ["1258", "windows_1258"],
    "YX3.G2yWW9bF8nF8wojXWELtEMsWWqFElWZFCkXWeXWi,XWEJnF4kWWEnFElWX2iDnX1X4Y3zXc13i13dXX4a3,13o13jX
    WCwCrXbDeLg12fXY2a1,Xc11k11fXX2c2X13c13XXWAyAtXbBgFFuFQv"⟩,
  ⟨"cp874", [],
    "YX3.G2yWZ8jWgzXWeXWi,XWWdFNf6MaX1uWZiXx"⟩]

/-- The sets of early personal computers. -/
def codePages : List ByteSet :=
  [⟨"cp437", ["437", "cspc8codepage437", "ibm437"],
    "YX3.4o3i1dlcficeXWdmZb2nXWg1y2X2.cfqbk2pk3rXWcG0cFHhBZwkmp2X2l1YiH5aH6f1aZ1ts1YIDkXX9Z2c3yXWvZ
    .1bkkZZ4tg2Yn1X1v3w2cXWhj1idj1X1whXWfXWvZjXW1oZ5bv7wfog1XGS,1Db1Bg2y1x2Y1Gz1HW1zz1auF6sF5n1ZF7
    g3oGRXGRgZBwXWH2rGLaGPnGMqGMbGMePtFSxIE.IGX"⟩,
  ⟨"cp720", [],
    "YX4W6ol5z5w5r6aeXWdmZ6ZXY2SaXW2Lz5X2Pw2Khb2IoXY2OZ2OcXl2Or1YIDkXX9Z2c3yXWvZ.1bkkZZ4tg2Yn1X1v3w
    2cXWhj1idj1X1whXWfXWvZjXW1oZ5bv7wfog1XFKrXZm2Ov2OyXdE1mE1jXaDVoGPnGMqGMbGMePtFSxIE.IGX"⟩,
  ⟨"cp737", [],
    "YX3.1HcXlcXboXlcZcXZGSqXX9Z2c3yXWvZ.1bkkZZ4tg2Yn1X1v3w2cXWhj1idj1X1whXWfXWvZjXW1oZ5bv7wfog1XGR
    l1xXX1w1t1yXWbe4ncXXccXW1DzGRgZFBrXW1BfGLaGPnGMqGMbGMePtFSxIE.IGX"⟩,
  ⟨"cp775", ["775", "cspc775baltic", "ibm775"],
    "YX3.8mr1d1o1x4W3z2c3u2,4eXW2v4.BhXWg1y2X8m5l2w8XBoXW8hk1w5h3iZ3d5w2s3l8oXWbFAeFNleib1aZ8i9j1YI
    DkXX9Z2cI2XowbI4y1bkkI2,3cHRYg2Yn1X1v3wHSrnHVYj1idj1X1wHU,7nowb1o3c1cn1eHPsv7wfog1XIAxw6yp4z2X
    2X9WzXWgXWs3f3eFDgFMvgFMuFLzn,5YFImFMzGMqGMbcjZIE.IGX"⟩,
  ⟨"cp850", ["850", "cspc850multilingual", "ibm850"],
    "YX3.4o3i1dlcficeXWdmZb2nXWg1y2X2.cfqbk2pk1w5h3iZBuBZwkmp2X2l1Yi1Zb1aZ1ts1YIDkXX9Z2cI6dXWb1lIBs
    1bkkIBteI6ug2Yn1X1v3wI5p2XI9mj1idj1X1wICn4w2XjXWd6q6fXXI4qv7wfIDz2kIBgIAxwtb2e2X2X4q2XfXWb2g2X
    2zilgFMkFLpn,5Y3,nn1WcjZIE.IGX"⟩,
  ⟨"cp852", ["852", "cspcp852", "ibm852"],
    "YX3.4o3i1dlc8u6n2X5u5l6iXW6d8uBh4c3x7YXW4jc4mXW1wXW8hk8oXW2f6r3k2vwkmsXW7oXW6jXW6xC.6z5eBf1YID
    kXX9Z2cI6dXW5o4gI0i1bkkHUbXWHPgg2Yn1X1v3wI3rXWI5mj1idj1X1wICn6yZb4d4g3o7rXW4yHVyv7wfI2bwI1cIAx
    wt7WXWg1oXWx7r7u1u7d2X8kA,l13Yb1f1a13Z5Y3,nn13aMn1pXWI4mIGX"⟩,
  ⟨"cp855", ["855", "csibm855", "ibm855"],
    "YX3.1Te5X5a5X4.5X5e5X5a5X5a5X5a5X5a5X5a5X5a5X5a5X5a5X5c5X5a5X4W2X1w2Xk2X2a2X3i2X.2X2a2X3W2X1W2
    X1Mn1YIDkXX9Z2cGD,2X1e2XGKu1bkkGIf2XGFmg2Yn1X1v3wGGb2XGKYj1idj1X1wICn1Pm2X2a2X2a2X2a2X2aGDqv7w
    fGMh3YGJaGLZ1a2X2a2X2a2X2a2X1e2X1w2X3s2XEEsG6p1P.2Xw2X3a2X2i2X1w2X1.2X1OXIFqIGX"⟩,
  ⟨"cp856", [],
    "YX3.2LaXvWW2KlWW3gWf2pb1aZWW1Z1YIDkXX9Z2cWYI7tIBs1bkkIBteI6ug2Yn1X1v3wWX1.j1idj1X1wICnWeI7gv7w
    fIDzWWIDsWbICtWcjilgFMkFLpn,5Y3,nn1WcjZIE.IGX"⟩,
  ⟨"cp857", ["857", "csibm857", "ibm857"],
    "YX3.4o3i1dlcficeXWdmZ4e6xXWg1y2X2.cfqb3m5rk1w5h3i8kXW7zwkmp2X4yXW6X1Zb1aZ1ts1YIDkXX9Z2cI6dXWb1
    lIBs1bkkIBteI6ug2Yn1X1v3wI5p2XI9mj1idj1X1wICn1k1X2YXWdWWiXXI4qv7wfIDz2kIBgIAxwtb2e2X2XWW2ceXWb
    1e1e5XilgWWyn,5Y3,nn1WcjZIE.IGX"⟩,
  ⟨"cp858", ["858", "csibm858", "ibm858"],
    "YX3.4o3i1dlcficeXWdmZb2nXWg1y2X2.cfqbk2pk1w5h3iZBuBZwkmp2X2l1Yi1Zb1aZ1ts1YIDkXX9Z2cI6dXWb1lIBs
    1bkkIBteI6ug2Yn1X1v3wI5p2XI9mj1idj1X1wICn4w2XjXWdFUgFT,XXI4qv7wfIDz2kIBgIAxwtb2e2X2X4q2XfXWb2g
    2X2zilgFMkFLpn,5Y3,nn1WcjZIE.IGX"⟩,
  ⟨"cp860", ["860", "csibm860", "ibm860"],
    "YX3.4o3i1dlXWd1,2ke2X1.1tm1o2pZmpo2wXWd1n2W2xqm3rXW3kFS.FTf.wkmp2X2l1Yi1e2j1aZ1ts1YIDkXX9Z2c3y
    XWvZ.1bkkZZ4tg2Yn1X1v3w2cXWhj1idj1X1whXWfXWvZjXW1oZ5bv7wfog1XGS,1Db1Bg2y1x2Y1Gz1HW1zz1auF6sF5n
    1ZF7g3oGRXGRgZBwXWH2rGLaGPnGMqGMbGMePtFSxIE.IGX"⟩,
  ⟨"cp861", ["861", "cp_is", "csibm861", "ibm861"],
    "YX3.4o3i1dlcficeXWd1n2Y1b1rXWg1y2X2.cod1z2Y2lk1w5h3iFTWFHhBZwkm3pwkm1tH5aH6f1aZ1ts1YIDkXX9Z2c3
    yXWvZ.1bkkZZ4tg2Yn1X1v3w2cXWhj1idj1X1whXWfXWvZjXW1oZ5bv7wfog1XGS,1Db1Bg2y1x2Y1Gz1HW1zz1auF6sF5
    n1ZF7g3oGRXGRgZBwXWH2rGLaGPnGMqGMbGMePtFSxIE.IGX"⟩,
  ⟨"cp862", ["862", "cspc862latinhebrew", "ibm862"],
    "YX3.2LaXv2KnXWcG0cFHhBZwkmp2X2l1YiH5aH6f1aZ1ts1YIDkXX9Z2c3yXWvZ.1bkkZZ4tg2Yn1X1v3w2cXWhj1idj1X
    1whXWfXWvZjXW1oZ5bv7wfog1XGS,1Db1Bg2y1x2Y1Gz1HW1zz1auF6sF5n1ZF7g3oGRXGRgZBwXWH2rGLaGPnGMqGMbGM
    ePtFSxIE.IGX"⟩,
  ⟨"cp863", ["863", "csibm863", "ibm863"],
    "YX3.4o3i1dl2X1.2r3aeXWdmZFIqFLl1p2cZc2s2pg2wb5h3Yo3rXW3kcBmEv.4Wm5b1Yhf2WH4cH6f1aZc1d1YIDkXX9Z
    2c3yXWvZ.1bkkZZ4tg2Yn1X1v3w2cXWhj1idj1X1whXWfXWvZjXW1oZ5bv7wfog1XGS,1Db1Bg2y1x2Y1Gz1HW1zz1auF6
    sF5n1ZF7g3oGRXGRgZBwXWH2rGLaGPnGMqGMbGMePtFSxIE.IGX"⟩,
  ⟨"cp864", ["864", "csibm864", "ibm864"],
    "YX1Z34k34fX2u3amGMcXW1No9bc3s1no1X1o2ffogGMjF6wF5n1HhwZGOwGPx1Y3V3wXWWXeXWWW3V5vy3UTi3UT,XW3UU
    YWXsXWkg3S8x3S9agg3S4hXe3S6o3SBj3S9kgg3S9r2Nx3UT.XWcc4i3,cgcgggggccccggggcgkg3V2pk4u2X3UVc3S8p
    3S9eggggggccg3j1WcZ1g6f3S2v3S9ggegc2bi2YXW1pf1o3CLZ"⟩,
  ⟨"cp865", ["865", "csibm865", "ibm865"],
    "YX3.4o3i1dlcficeXWdmZb2nXWg1y2X2.cfqbk2pk1w5h3iFTWFHhBZwkmp2X2l1YiH5aH6f1aZ1tslIEyXX9Z2c3yXWvZ
    .1bkkZZ4tg2Yn1X1v3w2cXWhj1idj1X1whXWfXWvZjXW1oZ5bv7wfog1XGS,1Db1Bg2y1x2Y1Gz1HW1zz1auF6sF5n1ZF7
    g3oGRXGRgZBwXWH2rGLaGPnGMqGMbGMePtFSxIE.IGX"⟩,
  ⟨"cp866", ["866", "csibm866", "ibm866"],
    "YX3.1PaX1kGLcXX9Z2c3yXWvZ.1bkkZZ4tg2Yn1X1v3w2cXWhj1idj1X1whXWfXWvZjXW1oZ5bv7wfog1XGKXXk4z5Y4x5
    Y4x5Y4p5Y1QzGMqGMbGMeGfG7bIFwIGX"⟩,
  ⟨"cp869", ["869", "cp_gr", "csibm869", "ibm869"],
    "YX3.Wb1GmWW1C,tjFNcXWE9ZE8yE8vXW2Y1zWXc1y1Gb1Ek1DxXW1Fq1Gp1GsXX1u3r3wXW3vXb1Dr1DuXW1Ez1YIDkXX9
    Z2cGOrXYGSk1bkkGR,XWGNag2Yn1X1v3wGPvXWGRqj1idj1X1wGSpXboXXGMiv7wfGTXXWGSuGSrXgcZc4X1Dlg1HgXX1I
    X1Ia4d1Dhn1Iac1t1.GTcIGX"⟩,
  ⟨"cp1006", [],
    "YX4,35YXeEx1W2Mz2Nc3S6cwXWYXWc1Jtc1Jucc1JZc1Jaccc1Ihc1Iicccc1Ih1Imc1IZ1Ie1Ih1ImccccccccggXdccc
    cc1Kpc1KqcXXc1Kh1Kmc6b6o1KlcXX1DkqXX6kXX1Kdb1C.XW"⟩,
  ⟨"cp1125", ["1125", "cp866u", "ibm1125", "ruscii"],
    "YX3.1PaX1kGLcXX9Z2c3yXWvZ.1bkkZZ4tg2Yn1X1v3w2cXWhj1idj1X1whXWfXWvZjXW1oZ5bv7wfog1XGKXXk4z5Y4WX
    W8x5Y4z5Y4,5Y1QXGMeGfG7bIFwIGX"⟩]

/-- The sets of mainframes, in which even letters and digits have places of their own. -/
def mainframeSets : List ByteSet :=
  [⟨"cp037", ["037", "csibm037", "ebcdic_cp_ca", "ebcdic_cp_nl", "ebcdic_cp_us", "ebcdic_cp_wt",
      "ibm037", "ibm039"],
    "YXY9q9d7yl1orXW8dXd8s1n7x8W6,XW7qd7dXY6aXZ7ryg6yXZ8lXX8qXW7t7yXY9b9gXY8lXW8q8fk8Y4ccfXWcccs4,7
    f.1fe5a5jCeXXdiXXdxBzekZ1c7a7,c9ecfXWcccs2t7rl3s2ZXWBq2,XXdiXXd6v2j1l1y1p1k1tBk7lXd4c1Y3iyXW4x
    Z4jXd3o1Y2w2z.2b1a3ltXc2m1.1ayXW3X5X4ic1czb1WkXX6dc5clw2e5v3rXd6g4mcfXWc7n3dXd6m4cXWdXWiAd9uAf
    Xc5o2ccfXWcAhXe7s2oXWdXW3t"⟩,
  ⟨"cp273", ["273", "csibm273", "ibm273"],
    "YXY9q9d7yl1orXW8dXd8s1n7x8W6,XW7qd7dXY6aXZ7ryg6yXZ8lXX8qXW7t7yXY9b9gXY8lXW8q8fk8Y4c6l6iXWcccs2
    x9j.1feriCeXXdiXXd6z5.BnkZ1c2e3Zc9e6l6iXWcccs2iCrl3s2ZXWBq2,XXdiXXd6v2j1l8g8X1k1tBk7lXd4c1Y3iy
    XW4xZ4jXd3o1Y2w2z.2b1a2s6vXc2m1.1ayXW3XvXWc1cz6p7kkXX1b3XFScFPjw2eyAdXd6g4m4z4wXWcmBbXd6m4c7z7
    wXWi2p2aAfXc5o2c7n7kXWcAhXe7s2o7z7wXW3t"⟩,
  ⟨"cp424", ["424", "csibm424", "ebcdic_cp_he", "ibm424"],
    "YXY9q9d7yl1orXW8dXd8s1n7x8W6,XW7qd7dXY6aXZ7ryg6yXZ8lXX8qXW7t7yXY9b9gXY8lXW8q8fk2RYXd2Jj7f.1fe5
    a5j2ReXd2SXekZ1c7a7,c2ReXc2Kd7rl3s2ZXWWW2QuWX2KrWYFNmFRl2j1l1y1p1k1tWW4WXd4c1YWYrZ4jXdWY4kWW1f
    1a3ltXcWa3g5X4ic1czb1WkXX6dc5clw2e5v3rXd6gWa3X3dXd6mWa5x9uAfXc5oWa8bXe7sWZ1f"⟩,
  ⟨"cp500", ["500", "csibm500", "ebcdic_cp_be", "ebcdic_cp_ch", "ibm500"],
    "YXY9q9d7yl1orXW8dXd8s1n7x8W6,XW7qd7dXY6aXZ7ryg6yXZ8lXX8qXW7t7yXY9b9gXY8lXW8q8fk8Y4ccfXWcccs9j2
    x.1feriCeXXdiXXdx8b3pkZ1c2e3Zc9ecfXWcccs2t7rl3s2ZXWBq2,XXdiXXd6v2j1l1y1p1k1tBk7lXd4c1Y3iyXW4xZ
    4jXd3o1Y2w2z.2b1a3ltXc2m1.1ayXW3XvXWc1czb1WkXX1b3X3elw2e5v3rXd6g4mcfXWc7n3dXd6m4cXWdXWiAd9uAfX
    c5o2ccfXWcAhXe7s2oXWdXW3t"⟩,
  ⟨"cp875", [],
    "YXY9q9d7yl1orXW8dXd8s1n7x8W6,XW7qd7dXY6aXZ7ryg6yXZ8lXX8qXW7t7yXY9b9gXY8lXW8q8fk1NaXd1Jz2x.1fer
    i1NgXcc1Kj3pkZ1c2e3Zc1NiXc1I,5Xl3s2ZXW6q1D.cXW1Ep1EsccXW1I,2j1l1y1p1k1t1Me1IfXd1KoXa1Gj4jXd1Ki
    Xa1Gn3jtXc1KeXZc1IX1GqXX1w1t1yXWbevcXZ1Kx3rXd6g1Hw3p2YE6odFPn3dXd6WwAd1MyE9cFNd4r4b3qXc5ot8xY9
    aXW7vXe7sr8,YAa1v"⟩,
  ⟨"cp1026", ["1026", "csibm1026", "ibm1026"],
    "YXY9q9d7yl1orXW8dXd8s1n7x8W6,XW7qd7dXY6aXZ7ryg6yXZ8lXX8qXW7t7yXY9b9gXY8lXW8q8fk8Y4ccfXWcc6r7k2
    r9p.1feriCeXXdiXXdx4W1cGjZ1c2e3Zc9ecfXWcc6r7k8.Jdl3s2ZXWBq2,XXdiXXd6iFl9w8oJl1kAWf7lXd4c1Y3z1x
    4kuZ4jXd3o1Y2w2z.2b1a4a8dXc2m1.6b3p1w6.vXWc1czb1WkXX1b3X3elw2e1YAjXd6g4m7j7gXWc2sDhXd6m4c9,9yX
    WidhAfXc5o2cBZBWXWcAhXe7s2oBpBmXW3t"⟩,
  ⟨"cp1140", ["1140", "ibm1140"],
    "YXY9q9d7yl1orXW8dXd8s1n7x8W6,XW7qd7dXY6aXZ7ryg6yXZ8lXX8qXW7t7yXY9b9gXY8lXW8q8fk8Y4ccfXWcccs4,7
    f.1fe5a5jCeXXdiXXdxBzekZ1c7a7,c9ecfXWcccs2t7rl3s2ZXWBq2,XXdiXXd6v2j1l1y1p1k1tBk7lXd4c1Y3iyXW4x
    Z4jXd3o1Y2w2z.FUkFVl3ltXc2m1.1ayXW3X5X4ic1czb1WkXX6dc5clw2e5v3rXd6g4mcfXWc7n3dXd6m4cXWdXWiAd9u
    AfXc5o2ccfXWcAhXe7s2oXWdXW3t"⟩]

/-- The sets of Macintosh. -/
def macSets : List ByteSet :=
  [⟨"mac_arabic", [],
    "YX3.4i2f2mcoikiZcc2Tk30,3wcZcXWcFJqFJnXWcc3n3qcXWeZcXWDvXZ34k34fXa2Ua2T,XX33aXe32,2Ua2T,XX2UaG
    IuGIpXu2T,XZ2UaXn2why5W3Zu2lq31jXX31u3s"⟩,
  ⟨"mac_croatian", [],
    "YX3.4iXWccoikiZccZcccZcXWcZcXWccZccZiZcXWFIgFNXzXWgFNuFMv2q3ZBcFScG6zvGRoGEdAhGKkGMxGReXW5,GLZ
    GKy1WbGAzGCsGOZ1Y1FW12t8j3p1zuGM.G8nGBkGKb5t6aFHsFOj2Ye1c7yXW4dFGgoXWhXWFIbIDe39Ji3S5jFPu6o7dX
    WFNftFLoFLvFMeg1cFMz4i4j4w4hiXXdmXW3y3,oXWb5oPi1k12x1Ha1Fh11W12b1c1wUa"⟩,
  ⟨"mac_cyrillic", ["maccyrillic"],
    "YX3.1PaX.DVaFNX1UY1UxgFNuFMv1LY1LnhG7qEIX5YF0.F5x5YESuGMxGReXWF0,1QZ1Tw8pf5Y4x5Y4z5Y4,5Yb5d1Lp
    GM.G8nGBk4bGLt1YFMuFOj1Mu5Y4,5YlDR.XWoXWhXWFIbFImE1X5Y4,5YEBmEHh5Yb1,XzE5."⟩,
  ⟨"mac_farsi", [],
    "YX3.4i2f2mcoikiZcc2Tk30,3wcZcXWcFJqFJnXWcc3n3qcXWeZcXWDvXZ34k34fXa2Ua2T,XX3CaXe3B,2Ua2T,XX2UaG
    IuGIpXu2T,XZ2UaXn2why5W3Zu2lq31jXX31u3s"⟩,
  ⟨"mac_greek", ["macgreek"],
    "YX3.4itl1m1j2ek1Aq1Ahcc1AY1Dv4WcZcXW4nG8WG3fXWFJeFMhFNeFJvc5XG0kFRdcXWFIgE8xXWgeec1CZ3Zh1Fsm1G
    dGRqGRXm1Ds1EXGReXWGSX1EyeXXcXWcsidXWe,1FZ1FecFAmFAf1Fp1YFMuFOj1Gic2Zc13hFCYcmXWhXWFIb19cXWcc2
    WXX1y3x3.1vXW1k1fXW1a1dgcifXYcXW.xcXWv1alib,1gXW3t2Y1Gd"⟩,
  ⟨"mac_iceland", ["maciceland"],
    "YX3.4iXWccoikiZccZcccZcXWcZcXWccZccZiZcXW1,2xzXWgFNuFMv2q3ZhG7qG6zvGRoGPr1cGKkGMxGReXWGSX1YGKy
    1WbF4,F6uGOZ1Y1FW1Cd1c3p1zuGM.G8nGBk4bGLt1YFMuFOj2Ye1c7yXWFCYXWoXWhXWFIbIDeICt7qFCw6oFTv2Y1b2Y
    Z4jFMeg1cFMzopsdiXXdmXW3S2u3S2xoXWb5oPi1k12x12qXX12b12ib1f"⟩,
  ⟨"mac_latin2", ["mac_centeuro", "maccentraleurope", "maclatin2"],
    "YX3.4i3wXW3n3u2zki2gm2n2qlXW1z9YXW6v2Z2ceXWe2d2g2dcZi2YXW1,FIgFNX6o7hgFNuFMv2q3ZhG7qG0p7ZGRoGJ
    xuXWhGJsXWGJruGCw1WGC,lXYhXWuXWd9lGM.GDjeGCWGLt1YFMuFOjAoo7t7whFCmXWoXWhXWFIbIDeI7xmXWeFEaXWFE
    ZdXWqFBsgFBxlXW9rAeXW9nBYXW1f9lXW9me9f9iXZ9j2Y3s4g3r3u5rQi"⟩,
  ⟨"mac_roman", ["macintosh", "macroman"],
    "YX3.4iXWccoikiZccZcccZcXWcZcXWccZccZiZcXWFIgFNXzXWgFNuFMv2q3ZhG7qG6zvGRoGPr1cGKkGMxGReXWGSX1YG
    Ky1WbF4,F6uGOZ1Y1FW1Cd1c3p1zuGM.G8nGBk4bGLt1YFMuFOj2Ye1c7yXWFCYXWoXWhXWFIbIDeICt7qFCw6o7dXW3DC
    mXW3DEZFMrFMeg1cFMzopsdiXXdmXW3S2u3S2xoXWb5oPi1k12x12qXX12b12ib1f"⟩,
  ⟨"mac_romanian", [],
    "YX3.4iXWccoikiZccZcccZcXWcZcXWccZccZiZcXWFIgFNXzXWgFNuFMv2q3ZhG7qG6zvGRoGLzHkG0kGMxGReXWGSX1YG
    Ky1WbF4,F6uGOZ1Y1FW1AjHkLr1zuGM.G8nGBk4bGLt1YFMuFOj2Ye1c7yXWFCYXWoXWhXWFIbIDeICt7qFCw6o7dXWF2X
    XWF0kFMrFMeg1cFMzopsdiXXdmXW3S2u3S2xoXWb5oPi1k12x12qXX12b12ib1f"⟩,
  ⟨"mac_turkish", ["macturkish"],
    "YX3.4iXWccoikiZccZcccZcXWcZcXWccZccZiZcXWFIgFNXzXWgFNuFMv2q3ZhG7qG6zvGRoGPr1cGKkGMxGReXWGSX1YG
    Ky1WbF4,F6uGOZ1Y1FW1Cd1c3p1zuGM.G8nGBk4bGLt1YFMuFOj2Ye1c7yXWFCYXWoXWhXWFIbIDeICt7q5rXW1aXW2yXW
    FCcFMrFMeg1cFMzopsdiXXdmXW3S2u3S2xoXWb3RSm3QTr1k12x12qXX12b12ib1f"⟩]

/-- Sets of other makers, and of Eastern Europe and Central Asia. -/
def otherSets : List ByteSet :=
  [⟨"hp_roman8", ["cp1051", "ibm1051", "r8", "roman8"],
    "YX4,2YckcXWeXW1t11mh11z13g10dcFSqFVh2.2Y4x1m2Y1j2Y5X1.1tZccEuFX4Yosm1rosm1rosm1hmuk3l2q1j1b2Wo
    u1b2b2o1jk1d2k1Xt1dc2Y1d2Y2dZmZe2Y6uXW8l9.7p2Z2Y4lbXWoFLkFLnXW1d1Y,IFiIEhr"⟩,
  ⟨"koi8_r", ["cskoi8r"],
    "YX3.I8acsggggoooo4gggggXY17d18Y1OlXW2.1wXWGShH8aH7Zci4YI5qXXGGZGGcXjGMXGMaXfICd1Qi1zXW1i1bXW1W
    1Z1cxXc1Y,XYxf1sZ1f1aifbe1v1zXW1i1bXW1W1Z1cxXc1Y,XYxf1sZ1f1aifbe"⟩,
  ⟨"koi8_t", [],
    "YX3.21wnDOmDOnDOwojXWWW1WDNxDOkDOliZWW1vDN.XWeXWi,XWWWG.WWEnWaDKtZ9x1Qx24W23xXWWYgXYWWcXX1LWWW
    Ea22vXWWWG6WWWG5tWY1b1Qi1zXW1i1bXW1W1Z1cxXc1Y,XYxf1sZ1f1aifbe1v1zXW1i1bXW1W1Z1cxXc1Y,XYxf1sZ1f
    1aifbe"⟩,
  ⟨"koi8_u", [],
    "YX3.I8acsggggoooo4gggggXY17d18Y1OlXW2.1wXWGShH8aH7Zci4YI5qXXGGZeGGYGFzXWGGYXZGCrGCwXZGMXeGMWGL
    xXWGMWXZGDrGDwICd1Qi1zXW1i1bXW1W1Z1cxXc1Y,XYxf1sZ1f1aifbe1v1zXW1i1bXW1W1Z1cxXc1Y,XYxf1sZ1f1aif
    be"⟩,
  ⟨"kz1048", ["kz_1048", "rk1048", "strk1048_2002"],
    "YX3.1OeXWE1mDSlDSuojXW8u7vE2lE3YE2,9Y2YAt4eDSkXWeXWi,XWWWG.ECpDUaDUX4a2Y5v1R,21YXW2m23f24g24bX
    W1Ls1Ln1Uq1UlXY20Y1VzXW1Li5Y9e23fXX1PsECiE8d1Tn21.3lXWw9,X1."⟩,
  ⟨"palmos", [],
    "YX3.G2yG2tFPqF8nF8wojXWELtEMsFDXFDqFElIHgdch34nXWeXWi,XWEJnF4kFSZCjBoBjXWDsDnX2."⟩,
  ⟨"ptcp154", ["cp154", "csptcp154", "cyrillic_asian", "pt154"],
    "YX3.21mf5w5tDOuoDNXngd,4c4Xn2Yb2ZDOaXWeXWi,XWDMZg1j4c4Xn2Yb21p1M.5Y5jEY5X1o20p1Ls1Ln23W22xXW24
    e24Z1U.1Uv20aAt5Y4e5Y23dXW1PsECiE3x21z1Py5cXWz8xX1."⟩]

/-- **All sets** with a byte to a character, but for those that are ranges of Unicode. -/
def all : List ByteSet :=
  isoSets ++ windowsSets ++ codePages ++ mainframeSets ++ macSets ++ otherSets

end ByteSet
end Charset
end OpenBroker
